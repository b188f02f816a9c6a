import OpcUa.Proofs.Session.FailedOperations
import OpcUa.Proofs.Session.OneOutcome
import OpcUa.Proofs.StatusCode

/-!
Operations on single items. Each of them sends what the batch of that one item sends, and takes the
only result out of the response. A bad status in the response reaches the completion unchanged,
whether it stands for the whole response or for the item.
-/

namespace OpcUa.Client

open Run

/-! ### The operations -/

inductive SingleItem
  | readAttribute (node : NodeId) (attributeId : AttributeId)
  | readValue (node : NodeId)
  | writeAttribute (node : NodeId) (attributeId : AttributeId) (value : DataValue)
  | writeValue (node : NodeId) (value : Variant)
  | addNode (item : AddNodeItem)
  | addKind (kind : NodeKind) (parent id : NodeId) (name : String) (attributes : NodeAttributes)
  | addReference (source target referenceType : NodeId) (isForward : Bool)
  | addModellingRule (node : NodeId) (rule : ModellingRule)
  | deleteNode (node : NodeId) (deleteTargetReferences : Bool)
  | deleteReference (item : DeleteReferenceItem)

namespace SingleItem

def call : SingleItem → Call
  | readAttribute node attributeId => .readAttribute node attributeId
  | readValue node => .readValue node
  | writeAttribute node attributeId value => .writeAttribute node attributeId value
  | writeValue node value => .writeValue node value
  | addNode item => .addNode item
  | addKind kind parent id name attributes => .addKind kind parent id name attributes
  | addReference source target referenceType isForward =>
    .addReference source target referenceType isForward
  | addModellingRule node rule => .addModellingRule node rule
  | deleteNode node deleteTargetReferences => .deleteNode node deleteTargetReferences
  | deleteReference item => .deleteReference item

def service : SingleItem → Service
  | readAttribute .. | readValue _ => .read
  | writeAttribute .. | writeValue .. => .write
  | addNode _ | addKind .. => .addNodes
  | addReference .. | addModellingRule .. => .addReferences
  | deleteNode .. => .deleteNodes
  | deleteReference _ => .deleteReferences

def item : (h : SingleItem) → h.service.Item
  | readAttribute node attributeId => (⟨node, attributeId⟩ : ReadItem)
  | readValue node => (⟨node, .value⟩ : ReadItem)
  | writeAttribute node attributeId value => (⟨node, attributeId, value⟩ : WriteItem)
  | writeValue node value => (⟨node, .value, .ofVariant value⟩ : WriteItem)
  | addNode item => item
  | addKind kind parent id name attributes =>
    (AddNodeItem.ofKind kind parent id name).withAttributes attributes
  | addReference source target referenceType isForward =>
    AddReferenceItem.between source target referenceType isForward
  | addModellingRule node rule => AddReferenceItem.forRule node rule
  | deleteNode node deleteTargetReferences => (⟨node, deleteTargetReferences⟩ : DeleteNodeItem)
  | deleteReference item => item

def view : (h : SingleItem) → h.service.Result → Payload
  | readAttribute .. => fun v : DataValue => .value v
  | readValue _ => fun v : DataValue => .variant v.value
  | addNode _ | addKind .. => fun r : AddNodeResult => .nodeId r.addedId
  | writeAttribute .. | writeValue .. | addReference .. | addModellingRule .. | deleteNode ..
  | deleteReference _ => fun _ => .nothing

def fallback : SingleItem → Payload
  | readAttribute .. => .value {}
  | readValue _ => .variant .empty
  | addNode _ | addKind .. => .nodeId .null
  | writeAttribute .. | writeValue .. | addReference .. | addModellingRule .. | deleteNode ..
  | deleteReference _ => .nothing

def single (h : SingleItem) : Call := .single h.service h.item h.view h.fallback

def batch (h : SingleItem) : Call := .batch (s := h.service) { items := [h.item] }

theorem call_eq (h : SingleItem) : h.call = h.single := by
  cases h <;> rfl

end SingleItem

/-! ### Statuses -/

section
variable {s : Service}

/-- The only result of a response, or the bad status that the response comes to: the service result
if that is bad, an unexpected error unless there is exactly one result, and else the status of the
result if that is bad. -/
def onlyResult (r : Response s) : Except StatusCode s.Result :=
  if r.header.serviceResult.isBad then .error r.header.serviceResult
  else
    match r.results with
    | [x] => if (s.resultStatus x).isBad then .error (s.resultStatus x) else .ok x
    | _ => .error .badUnexpectedError

theorem onlyResult_isBad {r : Response s} {code : StatusCode} (h : onlyResult r = .error code) :
    code.isBad = true := by
  have unexpected : StatusCode.badUnexpectedError.isBad = true := by decide
  unfold onlyResult at h
  split at h
  next isBad =>
    cases h
    exact isBad
  next =>
    split at h
    · split at h
      next isBad =>
        cases h
        exact isBad
      next => cases h
    · cases h
      exact unexpected

theorem single_of_bad {r : Response s} (isBad : r.header.serviceResult.isBad = true) :
    Response.single r = (.error (.ofStatus r.header.serviceResult), r) := by
  unfold Response.single
  rw [throwIfBad_bad isBad]

theorem single_of_one {r : Response s} {x : s.Result}
    (isFine : ¬ r.header.serviceResult.isBad = true) (results : r.results = [x]) :
    Response.single r = (.ok x, { r with results := [] }) := by
  unfold Response.single
  rw [throwIfBad_fine isFine, results]

theorem single_of_other {r : Response s} (isFine : ¬ r.header.serviceResult.isBad = true)
    (other : ∀ x, r.results ≠ [x]) :
    Response.single r = (.error (.ofStatus .badUnexpectedError), r) := by
  unfold Response.single
  rw [throwIfBad_fine isFine]
  cases results : r.results with
  | nil => rfl
  | cons x rest =>
    cases rest with
    | nil => exact absurd results (other x)
    | cons y more => rfl

theorem onlyResult_of_other {r : Response s} (isFine : ¬ r.header.serviceResult.isBad = true)
    (other : ∀ x, r.results ≠ [x]) : onlyResult r = .error .badUnexpectedError := by
  unfold onlyResult
  rw [if_neg isFine]
  cases results : r.results with
  | nil => rfl
  | cons x rest =>
    cases rest with
    | nil => exact absurd results (other x)
    | cons y more => rfl

/-- The library's transform follows the rule. -/
theorem checked_onlyResult (r : Response s) :
    (Response.checked r).1 = (onlyResult r).mapError Failure.ofStatus := by
  by_cases isBad : r.header.serviceResult.isBad = true
  · unfold Response.checked onlyResult
    rw [single_of_bad isBad, if_pos isBad]
    rfl
  by_cases one : ∃ x, r.results = [x]
  · obtain ⟨x, results⟩ := one
    unfold Response.checked onlyResult
    rw [single_of_one isBad results, if_neg isBad, results]
    dsimp only
    by_cases isBadItem : (s.resultStatus x).isBad = true
    · rw [throwIfBad_bad isBadItem, if_pos isBadItem]
      rfl
    · rw [throwIfBad_fine isBadItem, if_neg isBadItem]
      rfl
  · have other : ∀ x, r.results ≠ [x] := fun x results => one ⟨x, results⟩
    unfold Response.checked
    rw [single_of_other isBad other, onlyResult_of_other isBad other]
    rfl

theorem failureStatus_ofStatus (code : StatusCode) :
    Adapter.failureStatus (.ofStatus code) = code := by
  unfold Failure.ofStatus
  split
  next lost => exact lost.symm
  next => rfl

end

namespace SingleItem

/-- The status and the payload that the completion is told of a response. -/
def told (h : SingleItem) (r : Response h.service) : StatusCode × Payload :=
  match onlyResult r with
  | .ok x => (.good, h.view x)
  | .error code => (code, h.fallback)

def shown (h : SingleItem) (r : Response h.service) : Except Failure Payload :=
  match onlyResult r with
  | .ok x => .ok (h.view x)
  | .error code => .error (.ofStatus code)

variable (h : SingleItem) (r : Response h.service)

theorem futureOutcome_told : futureOutcome (h.told r).1 (h.told r).2 = h.shown r := by
  have isGood : StatusCode.good.isBad = false := by decide
  unfold told shown
  cases given : onlyResult r with
  | ok x => simp [futureOutcome, isGood]
  | error code => simp [futureOutcome, onlyResult_isBad given]

theorem transform_eq :
    (h.single.transform r).1 = ((onlyResult r).mapError Failure.ofStatus).map h.view := by
  have checked := checked_onlyResult r
  show (Call.mapTransform h.view Response.checked r).1 = _
  unfold Call.mapTransform
  rw [← checked]
  rcases Response.checked r with ⟨_ | _, rest⟩
  · rfl
  · rfl

theorem adapter_told (n : Nat) (k : Completion) :
    (h.single.adapter n k).Told (some r) (h.told r).1 (h.told r).2 := by
  have transforms := h.transform_eq r
  unfold told
  cases given : onlyResult r with
  | ok x =>
    rw [given] at transforms
    exact .transformed (Prod.ext transforms rfl)
  | error code =>
    rw [given] at transforms
    have failed : (h.single.adapter n k).transform r =
        (.error (.ofStatus code), (h.single.transform r).2) := Prod.ext transforms rfl
    have tells := told_of_failed failed
    rw [failureStatus_ofStatus] at tells
    exact tells

end SingleItem

theorem batch_told {s : Service} (request : Request s) (r : Response s) (n : Nat)
    (k : Completion) :
    ((Call.batch request).adapter n k).Told (some r) .good (.response ⟨s, r⟩) :=
  @Adapter.Told.transformed _ _ r {} _ rfl

/-! ### Callbacks -/

section
variable {act : Act} {c : Call} {n : Nat} {k : Completion} {id : UInt32} {s t : State}

/-- Where the transform takes no steps, a response is told as it stands. -/
theorem delivered_concludes {r : Response c.service} {status : StatusCode} {payload : Payload}
    (still : ∀ r, c.during r = []) (told : (c.adapter n k).Told (some r) status payload)
    (run : (Receiver.adapter c.service (c.adapter n k)).receive act id (some ⟨c.service, r⟩) s =
      some ((), t)) :
    Concludes act (c.adapter n k) status payload s t := by
  obtain ⟨rest, received⟩ := (receive_fitting (.expected r) s t).mp run
  obtain ⟨-, status', payload', u, told', took, concludes⟩ := receive_concludes received
  obtain ⟨rfl, rfl⟩ := told'.unique told
  have nothing : (c.adapter n k).stepsFor (some r) = [] := still r
  rw [nothing] at took
  obtain rfl : s = u := (pure_some took).2
  exact concludes

theorem delivered_ends {r : Response c.service} {status : StatusCode} {payload : Payload}
    (still : ∀ r, c.during r = []) (told : (c.adapter n k).Told (some r) status payload)
    (ends : ∀ u, OnlyNotes s u → ∃ outcome,
      k.invoke act (c.adapter n k).occasion status payload u = some outcome) :
    ∃ t, (Receiver.adapter c.service (c.adapter n k)).receive act id (some ⟨c.service, r⟩) s =
      some ((), t) := by
  have took : takeSteps act ((c.adapter n k).stepsFor (some r)) s = some ((), s) := by
    have nothing : (c.adapter n k).stepsFor (some r) = [] := still r
    rw [nothing]
    rfl
  have told_ends : ∀ status' payload' u, (c.adapter n k).Told (some r) status' payload' →
      OnlyNotes s u →
      ∃ outcome, k.invoke act (c.adapter n k).occasion status' payload' u = some outcome := by
    intro status' payload' u told' noted
    obtain ⟨rfl, rfl⟩ := told'.unique told
    exact ends u noted
  obtain ⟨rest, t, received⟩ : ∃ rest t,
      (c.adapter n k).receive act id (some r) s = some (rest, t) := receive_ends took told_ends
  exact ⟨t, (receive_fitting (.expected r) s t).mpr ⟨rest, received⟩⟩

/-- A future that is told does nothing else. -/
theorem concludes_future {ρ : Type} {a : Adapter ρ} {cell : Nat} {status : StatusCode}
    {payload : Payload} (concludes : Concludes act a status payload s t)
    (isFuture : a.completion = .future cell) :
    t.transport = s.transport ∧ t.held = s.held ∧
      t.cells = s.cells.setIfInBounds cell (.ready (futureOutcome status payload)) := by
  obtain @⟨u, v, outcome, ⟨os, rfl⟩, told, after⟩ := concludes
  rw [isFuture] at told
  cases invoke_iff.mp told
  have held : t.held = s.held := by
    funext desk
    by_cases own : desk = a.desk
    · subst own
      rw [after.slot, Occasion.noted_held]
      exact Option.or_none
    · rw [after.others desk own, Occasion.noted_held]
      exact congrFun (held_congr rfl rfl) desk
  refine ⟨?_, held, ?_⟩
  · rw [after.rest]
    exact Occasion.noted_transport
  · rw [after.rest]
    exact Occasion.noted_cells

end

/-! ### Serving -/

theorem serve_single {s : Service} {request : Request s} {item : s.Item} {x : s.Result}
    {space after : AddressSpace} {now : Timestamp} (items : request.items = [item])
    (performed : AddressSpace.perform now s item space = (x, after)) :
    space.serve now request = (⟨.answering request.header .good now, [x]⟩, after) := by
  unfold AddressSpace.serve
  rw [items]
  simp [AddressSpace.performAll, performed]

/-- The state in which a request was answered and its callback is about to be told. -/
def State.answered (q : Queued) (given : Response q.service) (l : Loopback) (s : State) : State :=
  { s with
    transport := .loopback l
    clocks := { s.clocks with dayLooks := s.clocks.dayLooks + 1 }
    journal := ((s.journal ++
        ((Loopback.addedNodes ⟨q.service, given⟩).map Occurrence.nodeAdded).toArray).push
      (.served q.id q.service q.body (some ⟨q.service, given⟩))).push
      (.calledBack q.id (some ⟨q.service, given⟩)) }

section
variable {act : Act} {s : State} {l : Loopback} {q : Queued} {request : Request q.service}
  {given : Response q.service} {space : AddressSpace}

/-- Serving a request does the same whoever takes the response, up to the callback. -/
theorem serve_answered (loopback : s.transport = .loopback l) (keeps : l.dropNext = false)
    (body : q.body = some ⟨q.service, request⟩)
    (answers : l.space.serve (s.clocks.day s.clocks.dayLooks) request = (given, space)) :
    Loopback.serve act q s =
      q.receiver.receive act q.id (some ⟨q.service, given⟩)
        (s.answered q given { l with space := space }) := by
  have answered : l.answer (s.clocks.day s.clocks.dayLooks) q =
      (some ⟨q.service, given⟩, (Loopback.addedNodes ⟨q.service, given⟩).map .nodeAdded,
        { l with space := space }) := by
    unfold Loopback.answer
    rw [keeps, body]
    simp [answers]
  let looked : State :=
    { s with clocks := { s.clocks with dayLooks := s.clocks.dayLooks + 1 } }
  have found : looked.loopback = l := loopback_of loopback
  unfold Loopback.serve
  refine (bind_eq (y := s.clocks.day s.clocks.dayLooks) (t := looked) rfl).trans ?_
  refine (bind_eq (y := looked) (t := looked) rfl).trans ?_
  rw [found, answered]
  rfl

theorem afterServing_quiet (k : Nat) (empty : s.held .client = none) :
    ∃ t, afterServing k s = some (.ok k, t) ∧ t.transport = s.transport ∧ t.cells = s.cells := by
  let ended : State := { s with journal := s.journal.push (.passServed k) }
  have quiet : ended.caught = none := empty
  exact ⟨ended.finished k, (bind_eq (y := ()) rfl).trans (finishPass_quiet quiet k), rfl, rfl⟩

end

/-! ### Synchronous calls -/

/-- A synchronous call over an empty queue comes to what its adapter tells of the response, and leaves
the address space as the request has made it. -/
theorem sync_alone {act : Act} {c : Call} {s : State} {l : Loopback} {given : Response c.service}
    {space : AddressSpace} {status : StatusCode} {payload : Payload}
    (loopback : s.transport = .loopback l) (isOpen : l.isConnected = true)
    (unarmed : l.failNext = none) (keeps : l.dropNext = false) (nothing : l.queue = [])
    (empty : s.caught = none)
    (early : ∀ d, s.deadline? = some d → s.clocks.steady (s.clocks.steadyLooks + 1) < d)
    (still : ∀ r, c.during r = [])
    (answers : l.space.serve (s.clocks.day (s.clocks.dayLooks + 1))
      (c.requestAt (s.clocks.day s.clocks.dayLooks)) = (given, space))
    (told : (c.adapter s.operations (.future s.cells.size)).Told (some given) status payload)
    (passes : Nat) :
    ∃ t, perform1 (passes + 1) act (.call c .sync) s =
        some (.outcome (futureOutcome status payload), t) ∧
      t.transport = .loopback
        { l with space := space, nextRequestId := Loopback.nextId l.nextRequestId } := by
  have hasRoom : l.isFull = false := by
    simp [Loopback.isFull, nothing]
  have accepts : l.Accepts := fun service body r => by
    simp [Loopback.submit, unarmed, isOpen, hasRoom, Loopback.enqueue]
  let q : Queued := c.queued (.future s.cells.size) l.nextRequestId s
  let waiting : State := (c.acceptedFor .sync l s).later s.looksOfWait
  let passing : State := waiting.emptied (l.enqueue q)
  have queue : (l.enqueue q).queue = [] ++ [q] := by simp [Loopback.enqueue, nothing]
  have passed := @runIterate_last act waiting (l.enqueue q) [] q rfl isOpen queue
  have served := @serve_answered act passing { l.enqueue q with queue := [] } q
    (c.requestAt (s.clocks.day s.clocks.dayLooks)) given space rfl keeps rfl answers
  let told' : State := passing.answered q given { l.enqueue q with queue := [], space := space }
  obtain ⟨t, received⟩ : ∃ t, q.receiver.receive act q.id (some ⟨c.service, given⟩) told' =
      some ((), t) := delivered_ends still told fun u _ => ⟨_, invoke_iff.mpr (.future _)⟩
  obtain ⟨transport, held, cells⟩ :=
    concludes_future (delivered_concludes still told received) rfl
  have quiet : t.held .client = none := by
    rw [held]
    exact empty
  obtain ⟨v, finished, sameTransport, sameCells⟩ := afterServing_quiet 1 quiet
  have ran : runIterate act waiting = some (.ok 1, v) := by
    rw [passed]
    exact (bind_eq (y := ()) rfl).trans ((bind_eq (served.trans received)).trans finished)
  have resolved : v.Resolved s.cells.size (futureOutcome status payload) := by
    show v.cells[s.cells.size]? = _
    rw [sameCells, cells]
    have known : s.cells.size < (s.cells.push .waiting).size := by simp
    exact Array.getElem?_setIfInBounds_self_of_lt known
  refine ⟨_, sync_accepted loopback accepts early ran resolved passes, ?_⟩
  show v.transport = _
  rw [sameTransport, transport]
  show Transport.loopback { l.enqueue q with queue := [], space := space } = _
  simp [Loopback.enqueue, nothing]

/-! ### One item and its batch -/

namespace SingleItem

variable (h : SingleItem)

/-- The response of a server that has carried out the item with this result. -/
def responseTo (s : State) (now : Timestamp) (x : h.service.Result) : Response h.service :=
  ⟨.answering (h.single.requestAt (s.clocks.day s.clocks.dayLooks)).header .good now, [x]⟩

theorem onlyResult_responseTo (s : State) (now : Timestamp) (x : h.service.Result) :
    onlyResult (h.responseTo s now x) =
      if (h.service.resultStatus x).isBad then .error (h.service.resultStatus x) else .ok x := by
  have isGood : StatusCode.good.isBad = false := by decide
  unfold onlyResult responseTo
  simp [ResponseHeader.answering, isGood]

theorem shown_responseTo (s : State) (now : Timestamp) (x : h.service.Result) :
    h.shown (h.responseTo s now x) =
      if (h.service.resultStatus x).isBad then .error (.ofStatus (h.service.resultStatus x))
      else .ok (h.view x) := by
  unfold shown
  rw [h.onlyResult_responseTo]
  by_cases isBad : (h.service.resultStatus x).isBad = true
  · simp [isBad]
  · simp [isBad]

theorem served_alike {act : Act} {s u : State} {l : Loopback} {x : h.service.Result}
    {space : AddressSpace} (loopback : u.transport = .loopback l) (keeps : l.dropNext = false)
    (performed : AddressSpace.perform (u.clocks.day u.clocks.dayLooks) h.service h.item l.space =
      (x, space)) (id : UInt32) (k k' : Completion) :
    ∃ r v, r = h.responseTo s (u.clocks.day u.clocks.dayLooks) x ∧
      v.transport = .loopback { l with space := space } ∧
      (∀ t, Loopback.serve act (h.single.queued k id s) u = some ((), t) →
        Concludes act (h.single.adapter s.operations k) (h.told r).1 (h.told r).2 v t) ∧
      ∀ t, Loopback.serve act (h.batch.queued k' id s) u = some ((), t) →
        Concludes act (h.batch.adapter s.operations k') .good (.response ⟨h.service, r⟩) v t := by
  let r := h.responseTo s (u.clocks.day u.clocks.dayLooks) x
  have answers := @serve_single _ (h.single.requestAt (s.clocks.day s.clocks.dayLooks)) _ _ _ _ _
    rfl performed
  have single := @serve_answered act u l (h.single.queued k id s) _ r space loopback keeps rfl answers
  have batch := @serve_answered act u l (h.batch.queued k' id s) _ r space loopback keeps rfl answers
  refine ⟨r, u.answered (h.single.queued k id s) r { l with space := space }, rfl, rfl, ?_, ?_⟩
  · intro t served
    rw [single] at served
    exact delivered_concludes (c := h.single) (fun _ => rfl) (h.adapter_told r _ _) served
  · intro t served
    rw [batch] at served
    exact delivered_concludes (c := h.batch) (fun _ => rfl) (batch_told _ r _ _) served

/-- Made synchronously over an empty queue, both operations leave the same transport behind. -/
theorem sync_alike {act : Act} {s : State} {l : Loopback} {x : h.service.Result}
    {space : AddressSpace} (loopback : s.transport = .loopback l) (isOpen : l.isConnected = true)
    (unarmed : l.failNext = none) (keeps : l.dropNext = false) (nothing : l.queue = [])
    (empty : s.caught = none)
    (early : ∀ d, s.deadline? = some d → s.clocks.steady (s.clocks.steadyLooks + 1) < d)
    (performed : AddressSpace.perform (s.clocks.day (s.clocks.dayLooks + 1)) h.service h.item
      l.space = (x, space)) (passes : Nat) :
    ∃ t t',
      perform1 (passes + 1) act (.call h.call .sync) s =
        some (.outcome (if (h.service.resultStatus x).isBad
          then .error (.ofStatus (h.service.resultStatus x)) else .ok (h.view x)), t) ∧
      perform1 (passes + 1) act (.call h.batch .sync) s =
        some (.outcome (.ok (.response
          ⟨h.service, h.responseTo s (s.clocks.day (s.clocks.dayLooks + 1)) x⟩)), t') ∧
      t.transport = t'.transport ∧
      t.transport = .loopback
        { l with space := space, nextRequestId := Loopback.nextId l.nextRequestId } := by
  let r := h.responseTo s (s.clocks.day (s.clocks.dayLooks + 1)) x
  have answers := @serve_single _ (h.single.requestAt (s.clocks.day s.clocks.dayLooks)) _ _ _ _ _
    rfl performed
  obtain ⟨t, single, after⟩ := @sync_alone act h.single _ _ _ _ _ _ loopback isOpen unarmed keeps
    nothing empty early (fun _ => rfl) answers (h.adapter_told r _ _) passes
  obtain ⟨t', batch, after'⟩ := @sync_alone act h.batch _ _ _ _ _ _ loopback isOpen unarmed keeps
    nothing empty early (fun _ => rfl) answers (batch_told _ r _ _) passes
  have isGood : StatusCode.good.isBad = false := by decide
  have whole : futureOutcome .good (.response ⟨h.service, r⟩) = .ok (.response ⟨h.service, r⟩) :=
    (futureOutcome_ok _ _).mpr isGood
  rw [h.futureOutcome_told, h.shown_responseTo, ← h.call_eq] at single
  rw [whole] at batch
  exact ⟨t, t', single, batch, after.trans after'.symm, after⟩

end SingleItem

/-- An operation on a single item sends the request of its batch of one, does the same to every
address space, and tells what the one result of the response amounts to. -/
theorem single_item_agrees_with_batch (h : SingleItem) :
    h.call = .single h.service h.item h.view h.fallback ∧
      (∀ (r : Response h.service) act n k id s,
        (∀ t, (Receiver.adapter h.service (h.single.adapter n k)).receive act id
            (some ⟨h.service, r⟩) s = some ((), t) →
          Concludes act (h.single.adapter n k) (h.told r).1 (h.told r).2 s t ∧
            ∀ cell, k = .future cell → cell < s.cells.size → t.Resolved cell (h.shown r) ∧
              ∀ passes, ∃ u, wait passes act cell t = some (h.shown r, u)) ∧
        ((∀ u, OnlyNotes s u →
            ∃ outcome, k.invoke act (h.single.adapter n k).occasion (h.told r).1 (h.told r).2 u =
              some outcome) →
          ∃ t, (Receiver.adapter h.service (h.single.adapter n k)).receive act id
            (some ⟨h.service, r⟩) s = some ((), t))) ∧
      (∀ (r : Response h.service) code, onlyResult r = .error code →
        code.isBad = true ∧ h.told r = (code, h.fallback) ∧
          h.shown r = .error (.ofStatus code) ∧ (Failure.ofStatus code).status = code ∧
          (Failure.ofStatus code = .disconnected ↔ code = .badDisconnect)) ∧
      (∀ k k' id s, h.single.queued k id s =
        { h.batch.queued k' id s with
          receiver := .adapter h.service (h.single.adapter s.operations k) }) ∧
      (∀ act s u l x space, u.transport = .loopback l → l.dropNext = false →
        AddressSpace.perform (u.clocks.day u.clocks.dayLooks) h.service h.item l.space =
          (x, space) →
        ∀ id k k', ∃ r v, r = h.responseTo s (u.clocks.day u.clocks.dayLooks) x ∧
          v.transport = .loopback { l with space := space } ∧
          (∀ t, Loopback.serve act (h.single.queued k id s) u = some ((), t) →
            Concludes act (h.single.adapter s.operations k) (h.told r).1 (h.told r).2 v t) ∧
          ∀ t, Loopback.serve act (h.batch.queued k' id s) u = some ((), t) →
            Concludes act (h.batch.adapter s.operations k') .good (.response ⟨h.service, r⟩) v t) ∧
      ∀ act s l x space, s.transport = .loopback l → l.isConnected = true → l.failNext = none →
        l.dropNext = false → l.queue = [] → s.caught = none →
        (∀ d, s.deadline? = some d → s.clocks.steady (s.clocks.steadyLooks + 1) < d) →
        AddressSpace.perform (s.clocks.day (s.clocks.dayLooks + 1)) h.service h.item l.space =
          (x, space) →
        ∀ passes, ∃ t t',
          perform1 (passes + 1) act (.call h.call .sync) s =
            some (.outcome (if (h.service.resultStatus x).isBad
              then .error (.ofStatus (h.service.resultStatus x)) else .ok (h.view x)), t) ∧
          perform1 (passes + 1) act (.call h.batch .sync) s =
            some (.outcome (.ok (.response
              ⟨h.service, h.responseTo s (s.clocks.day (s.clocks.dayLooks + 1)) x⟩)), t') ∧
          t.transport = t'.transport ∧
          t.transport = .loopback
            { l with space := space, nextRequestId := Loopback.nextId l.nextRequestId } := by
  refine ⟨h.call_eq, ?_, ?_, fun _ _ _ _ => rfl, ?_, ?_⟩
  · intro r act n k id s
    refine ⟨fun t run => ?_, fun ends => ?_⟩
    · have concludes := delivered_concludes (c := h.single) (fun _ => rfl) (h.adapter_told r n k) run
      refine ⟨concludes, fun cell isFuture known => ?_⟩
      have resolved : t.Resolved cell (h.shown r) := by
        rw [← h.futureOutcome_told]
        exact concludes_resolves concludes isFuture known
      exact ⟨resolved, fun passes => wait_resolved passes resolved⟩
    · exact delivered_ends (c := h.single) (fun _ => rfl) (h.adapter_told r n k) ends
  · intro r code failed
    refine ⟨onlyResult_isBad failed, ?_, ?_, status_ofStatus code, ofStatus_disconnected code⟩
    · unfold SingleItem.told
      rw [failed]
    · unfold SingleItem.shown
      rw [failed]
  · intro act s u l x space loopback keeps performed id k k'
    exact h.served_alike loopback keeps performed id k k'
  · intro act s l x space loopback isOpen unarmed keeps nothing empty early performed passes
    exact h.sync_alike loopback isOpen unarmed keeps nothing empty early performed passes

/-- A node that is not there is read, alone and as a batch. -/
theorem missing_node_read_alone_and_in_batch :
    let h : SingleItem := .readValue (.numeric 1 7)
    let s := State.start {} (.loopback { space := .empty, maxPending := 0 })
      ⟨fun _ => .epoch, id, 0, 0⟩
    ∃ t t', perform1 1 (perform 1) (.call h.call .sync) s =
        some (.outcome (.error (.badStatus .badNodeIdUnknown)), t) ∧
      perform1 1 (perform 1) (.call h.batch .sync) s =
        some (.outcome (.ok (.response ⟨.read, ⟨.answering {} .good .epoch,
          [{ status := .badNodeIdUnknown, serverTimestamp := some .epoch }]⟩⟩)), t') ∧
      t.transport = t'.transport := by
  intro h s
  obtain ⟨-, -, -, -, -, sync⟩ := single_item_agrees_with_batch h
  have performed : AddressSpace.perform .epoch h.service h.item .empty =
      (((DataValue.ofStatus .badNodeIdUnknown).stamped .epoch : DataValue), .empty) := rfl
  have early : ∀ d, s.deadline? = some d → s.clocks.steady (s.clocks.steadyLooks + 1) < d := by
    decide +kernel
  obtain ⟨t, t', single, batch, same, -⟩ :=
    sync (perform 1) s _ _ _ rfl rfl rfl rfl rfl rfl early performed 0
  have isBad : StatusCode.badNodeIdUnknown.isBad = true := by decide
  have coded : Failure.ofStatus .badNodeIdUnknown = .badStatus .badNodeIdUnknown := by decide
  have failed : (if (h.service.resultStatus
        ((DataValue.ofStatus .badNodeIdUnknown).stamped .epoch)).isBad
      then .error (.ofStatus .badNodeIdUnknown)
      else .ok (h.view ((DataValue.ofStatus .badNodeIdUnknown).stamped .epoch)) :
        Except Failure Payload) = .error (.badStatus .badNodeIdUnknown) :=
    (if_pos isBad).trans (congrArg Except.error coded)
  exact ⟨t, t', failed ▸ single, batch, same⟩

end OpcUa.Client
