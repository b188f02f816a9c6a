import OpcUa.Proofs.Session.Callback
import OpcUa.Proofs.Session.Loopback
import OpcUa.Proofs.Session.Pairing

/-!
Sessions that agree go on agreeing, whatever steps are carried out in them, as long as these name no
hidden future.
-/

namespace OpcUa.Client

open Run

/-! ### The parts of a pass -/

/-- What the client does after a pass of the transport. -/
def finishPass : Except Failure Nat → Run (Except Failure Nat)
  | .error e => return .error e
  | .ok n => do
    count fun s =>
      { s with
        iterations := Stats.bump s.iterations 1
        callbacks := Stats.bump s.callbacks n }
    note (.passFinished n)
    match ← rethrow .client with
    | none => return .ok n
    | some e =>
      count fun s => { s with rethrown := Stats.bump s.rethrown 1 }
      note (.reported "run_iterate" e)
      return .error e

theorem runIterate_eq (act : Act) : runIterate act = pump act >>= finishPass := rfl

theorem loopback_of {s : State} {l : Loopback} (h : s.transport = .loopback l) :
    s.loopback = l := by
  simp [State.loopback, h]

/-- The state in which a pass has taken the requests from the queue. -/
def State.emptied (s : State) (l : Loopback) : State :=
  { s with
    transport := .loopback { l with queue := [] }
    journal := s.journal.push (.passBegan l.isConnected (l.queue.map Queued.id)) }

/-- A pass serves the requests that it has taken, or abandons them. -/
def callBackAll (act : Act) (isConnected : Bool) (batch : List Queued) : Run Unit :=
  if isConnected then Loopback.serveAll act batch else Loopback.abandonAll act batch

/-- What a pass that has called back some requests comes to. -/
def endPass (isConnected : Bool) (n : Nat) : Run (Except Failure Nat) :=
  if isConnected then do
    note (.passServed n)
    return .ok n
  else do
    note (.passAbandoned n)
    return .error .disconnected

/-- A pass takes the requests from the queue, has them called back, and ends. -/
theorem pump_eq {act : Act} {s : State} {l : Loopback} (loopback : s.transport = .loopback l) :
    pump act s =
      (do
        callBackAll act l.isConnected l.queue
        endPass l.isConnected l.queue.length) (s.emptied l) := by
  have reached : pump act s = Loopback.pump act s := by
    unfold pump
    refine (bind_eq (y := s) (t := s) rfl).trans ?_
    rw [loopback]
  rw [reached]
  unfold Loopback.pump
  refine (bind_eq (y := s) (t := s) rfl).trans ?_
  rw [loopback_of loopback]
  refine (bind_eq (y := ()) rfl).trans ((bind_eq (y := ()) rfl).trans ?_)
  unfold State.emptied
  cases connected : l.isConnected with
  | true => rfl
  | false => rfl

/-- The state after a pass of the client in which `n` callbacks were made, and no failure came out. -/
def State.finished (s : State) (n : Nat) : State :=
  { s with
    stats := { s.stats with
      iterations := Stats.bump s.stats.iterations 1
      callbacks := Stats.bump s.stats.callbacks n }
    journal := s.journal.push (.passFinished n) }

theorem finishPass_quiet {s : State} (empty : s.caught = none) (n : Nat) :
    finishPass (.ok n) s = some (.ok n, s.finished n) := by
  have nothing : (s.finished n).caught = none := empty
  have taken : rethrow .client (s.finished n) = some (none, s.finished n) := by
    refine (bind_eq (y := none) (t := s.finished n) ?_).trans rfl
    show some ((s.finished n).caught, s.finished n) = _
    rw [nothing]
  exact (bind_eq (y := ()) rfl).trans ((bind_eq (y := ()) rfl).trans (bind_eq taken))

namespace Pairing

variable {P : Pairing}

/-! ### Other cells -/

section
variable {Q : Pairing} {n m : Nat}

section
variable (linked : ∀ {cell cell'}, P.Linked n cell cell' → Q.Linked m cell cell')
include linked

theorem Completions.map {c c' : Completion} (h : P.Completions n c c') : Q.Completions m c c' := by
  cases h with
  | future told => exact .future (linked told)
  | nobody => exact .nobody
  | handler h => exact .handler h

theorem Receivers.map {r r' : Receiver} (h : P.Receivers n r r') : Q.Receivers m r r' := by
  cases h with
  | adapter a told => exact .adapter a (told.map linked)
  | probe => exact .probe

theorem Requests.map {q q' : Queued} (h : P.Requests n q q') : Q.Requests m q q' := by
  cases h with
  | intro told => exact .intro q (told.map linked)

theorem Loopbacks.map {l l' : Loopback} (h : P.Loopbacks n l l') : Q.Loopbacks m l l' :=
  ⟨h.rest, h.queue.imp fun _ _ told => told.map linked⟩

end

theorem mapRel {α β : Type} {R S : α → β → Prop} (imp : ∀ {a b}, R a b → S a b) {x : Option α}
    {y : Option β} (h : Option.Rel R x y) : Option.Rel S x y := by
  cases h with
  | some related => exact .some (imp related)
  | none => exact .none

theorem Tables.map (linked : ∀ {cell cell'}, P.Linked n cell cell' → Q.Linked m cell cell')
    {l l' : List (String × Completion)} (h : P.Tables n l l') : Q.Tables m l l' :=
  fun slot => mapRel (fun told => told.map linked) (h slot)

/-! ### More cells -/

variable (le : n ≤ m)
include le

theorem Linked.mono {cell cell' : Nat} (h : P.Linked n cell cell') : P.Linked m cell cell' := by
  obtain ⟨i, small, left, right⟩ := h
  exact ⟨i, Nat.lt_of_lt_of_le small le, left, right⟩

theorem Completions.mono {c c' : Completion} (h : P.Completions n c c') : P.Completions m c c' :=
  h.map fun linked => linked.mono le

theorem Receivers.mono {r r' : Receiver} (h : P.Receivers n r r') : P.Receivers m r r' :=
  h.map fun linked => linked.mono le

theorem Loopbacks.mono {l l' : Loopback} (h : P.Loopbacks n l l') : P.Loopbacks m l l' :=
  h.map fun linked => linked.mono le

theorem Tables.mono {l l' : List (String × Completion)} (h : P.Tables n l l') : P.Tables m l l' :=
  h.map fun linked => linked.mono le

end

/-! ### Sequences of actions -/

namespace Relates

variable {α β : Type} {n : Nat}

theorem of_pure (x : α) : P.Agree n (pure x) (pure x) := by
  intro m le s s' agree y t run
  obtain ⟨rfl, rfl⟩ := pure_some run
  exact ⟨m, s', Nat.le_refl m, rfl, agree⟩

theorem of_eq {x x' : α} (same : x' = x) : P.Agree n (pure x) (pure x') := by
  subst same
  exact of_pure _

theorem bind {a a' : Run α} {f f' : α → Run β} {R : Nat → State → State → Prop}
    (ha : P.Agree n a a') (hf : ∀ x, P.Relates n (f x) (f' x) R) :
    P.Relates n (a >>= f) (a' >>= f') R := by
  intro m le s s' agree y u run
  obtain ⟨x, t, first, later⟩ := bind_some run
  obtain ⟨m₁, t', le₁, first', agree₁⟩ := ha m le s s' agree x t first
  obtain ⟨m₂, u', le₂, later', agree₂⟩ := hf x m₁ (Nat.le_trans le le₁) t t' agree₁ y u later
  exact ⟨m₂, u', Nat.le_trans le₁ le₂, (bind_eq first').trans later', agree₂⟩

theorem bind_get {f f' : State → Run β} {R : Nat → State → State → Prop}
    (h : ∀ m, n ≤ m → ∀ s s', P.States m s s' → P.Relates m (f s) (f' s') R) :
    P.Relates n (get >>= f) (get >>= f') R :=
  fun m le s s' agree => h m le s s' agree m m.le_refl s s' agree

theorem of_modify {g g' : State → State}
    (h : ∀ m, n ≤ m → ∀ s s', P.States m s s' → P.States m (g s) (g' s')) :
    P.Agree n (modify g) (modify g') := by
  intro m le s s' agree x t run
  cases run
  exact ⟨m, _, m.le_refl, rfl, h m le s s' agree⟩

theorem of_exhausted {a' : Run α} : P.Agree n exhausted a' := by
  intro m le s s' agree x t run
  cases run

theorem giving {a a' : Run α} {R : Nat → State → State → Prop} (ha : P.Relates n a a' R)
    (f : α → β) : P.Relates n (a >>= fun x => pure (f x)) (a' >>= fun x => pure (f x)) R := by
  intro m le s s' agree y u run
  obtain ⟨x, t, first, later⟩ := bind_some run
  obtain ⟨rfl, rfl⟩ := pure_some later
  obtain ⟨m', t', le', first', related⟩ := ha m le s s' agree x t first
  exact ⟨m', t', le', bind_eq first', related⟩

theorem mono {a a' : Run α} {R : Nat → State → State → Prop} (ha : P.Relates n a a' R) {m : Nat}
    (le : n ≤ m) : P.Relates m a a' R :=
  fun k le' => ha k (Nat.le_trans le le')

end Relates

/-! ### Small actions -/

section
variable {n : Nat}

theorem note_agree (o o' : Occurrence) : P.Agree n (note o) (note o') :=
  .of_modify fun _ _ _ _ agree =>
    { agree with left := { agree.left with }, right := { agree.right with } }

theorem noteAll_agree (os os' : List Occurrence) : P.Agree n (noteAll os) (noteAll os') :=
  .of_modify fun _ _ _ _ agree =>
    { agree with left := { agree.left with }, right := { agree.right with } }

theorem count_agree (f : Stats → Stats) : P.Agree n (count f) (count f) :=
  .of_modify fun _ _ s s' agree =>
    { agree with
      stats := show f s'.stats = f s.stats by rw [agree.stats]
      left := { agree.left with }
      right := { agree.right with } }

theorem timeOfDay_agree : P.Agree n timeOfDay timeOfDay := by
  intro m le s s' agree x t run
  cases run
  refine ⟨m, { s' with clocks := { s.clocks with dayLooks := s.clocks.dayLooks + 1 } },
    Nat.le_refl m, ?_, ?_⟩
  · simp [timeOfDay, modifyGet, MonadStateOf.modifyGet, StateT.modifyGet, agree.clocks]
  · exact { agree with clocks := rfl, left := { agree.left with }, right := { agree.right with } }

theorem steadyTime_agree : P.Agree n steadyTime steadyTime := by
  intro m le s s' agree x t run
  cases run
  refine ⟨m, { s' with clocks := { s.clocks with steadyLooks := s.clocks.steadyLooks + 1 } },
    Nat.le_refl m, ?_, ?_⟩
  · simp [steadyTime, modifyGet, MonadStateOf.modifyGet, StateT.modifyGet, agree.clocks]
  · exact { agree with clocks := rfl, left := { agree.left with }, right := { agree.right with } }

/-- A new cell is one that both sessions have. -/
theorem newCell_agree {α : Type} {f f' : Nat → Run α}
    (h : ∀ m, n ≤ m → ∀ cell cell', P.Linked m cell cell' → P.Agree m (f cell) (f' cell')) :
    P.Agree n (newCell >>= f) (newCell >>= f') := by
  intro m le s s' agree y u run
  obtain ⟨cell, t, added, run⟩ := bind_some run
  cases added
  have linked : P.Linked (m + 1) s.cells.size s'.cells.size :=
    ⟨m, Nat.lt_succ_self m, agree.left.place_next.symm, agree.right.place_next.symm⟩
  have grown : P.States (m + 1) { s with cells := s.cells.push .waiting }
      { s' with cells := s'.cells.push .waiting } := by
    have more : m ≤ m + 1 := Nat.le_succ m
    obtain ⟨l, l', here, there, same⟩ := agree.transport
    refine { agree with
      transport := ⟨l, l', here, there, same.mono more⟩
      futures := fun name shown => mapRel (fun linked => linked.mono more) (agree.futures name shown)
      slots := agree.slots.mono more
      unitSlots := agree.unitSlots.mono more
      left := agree.left.push .waiting
      right := agree.right.push .waiting
      cells := ?_ }
    intro i small
    rw [Array.getElem?_push, Array.getElem?_push, ← agree.left.place_next,
      ← agree.right.place_next]
    simp only [place_inj]
    split
    · rfl
    · exact agree.cells i (by omega)
  obtain ⟨m', u', le', run', agree'⟩ := h (m + 1) (Nat.le_trans le (Nat.le_succ m)) _ _ linked
    (m + 1) (Nat.le_refl _) _ _ grown y u run
  exact ⟨m', u', Nat.le_of_succ_le le', (bind_eq rfl).trans run', agree'⟩

theorem setCell_agree {cell cell' : Nat} (linked : P.Linked n cell cell') (x : Cell) :
    P.Agree n (setCell cell x) (setCell cell' x) := by
  obtain ⟨i, small, rfl, rfl⟩ := linked
  refine .of_modify fun m le s s' agree => ?_
  refine { agree with
    cells := fun j shared => ?_
    left := agree.left.set i x
    right := agree.right.set i x }
  have here := agree.left.place_lt (Nat.lt_of_lt_of_le small le)
  have there := agree.right.place_lt (Nat.lt_of_lt_of_le small le)
  rw [getElem?_set_place here, getElem?_set_place there, agree.cells j shared]

theorem getCell_agree {cell cell' : Nat} (linked : P.Linked n cell cell') :
    P.Agree n (getCell cell) (getCell cell') := by
  obtain ⟨i, small, rfl, rfl⟩ := linked
  refine .bind_get fun m le s s' agree => .of_eq ?_
  rw [agree.cells i (Nat.lt_of_lt_of_le small le)]

theorem takeOutcome_agree {cell cell' : Nat} (linked : P.Linked n cell cell') :
    P.Agree n (takeOutcome cell) (takeOutcome cell') := by
  refine .bind (getCell_agree linked) fun c => ?_
  cases c with
  | waiting => exact .of_pure _
  | ready outcome => exact .bind (setCell_agree linked .spent) fun _ => .of_pure _
  | spent => exact .of_pure _

theorem drop_agree {c c' : Completion} (told : P.Completions n c c') :
    P.Agree n (drop c) (drop c') := by
  cases told with
  | future linked =>
    refine .bind (getCell_agree linked) fun c => ?_
    cases c with
    | waiting => exact setCell_agree linked .spent
    | ready _ | spent => exact .of_pure _
  | nobody | handler _ => exact .of_pure _

theorem dropAny_agree {c c' : Option Completion} (told : Option.Rel (P.Completions n) c c') :
    P.Agree n (dropAny c) (dropAny c') := by
  cases told with
  | some told => exact drop_agree told
  | none => exact .of_pure _

/-! ### Catchers -/

theorem caught_agree (desk : Desk) : P.Agree n (caught desk) (caught desk) := by
  cases desk with
  | client => exact .bind_get fun _ _ _ _ agree => .of_eq agree.caught
  | spare => exact .bind_get fun _ _ _ _ agree => .of_eq agree.spareCaught

theorem setCaught_agree (desk : Desk) (e : Option Failure) :
    P.Agree n (setCaught desk e) (setCaught desk e) := by
  cases desk with
  | client =>
    exact .of_modify fun _ _ _ _ agree =>
      { agree with caught := rfl, left := { agree.left with }, right := { agree.right with } }
  | spare =>
    exact .of_modify fun _ _ _ _ agree =>
      { agree with spareCaught := rfl, left := { agree.left with }, right := { agree.right with } }

theorem store_agree (desk : Desk) (e : Failure) : P.Agree n (store desk e) (store desk e) := by
  refine .bind (caught_agree desk) fun found => ?_
  cases found with
  | some pending => exact note_agree _ _
  | none => exact .bind (note_agree _ _) fun _ => setCaught_agree desk _

theorem rethrow_agree (desk : Desk) : P.Agree n (rethrow desk) (rethrow desk) := by
  refine .bind (caught_agree desk) fun found => ?_
  cases found with
  | none => exact .of_pure _
  | some e =>
    refine .bind (setCaught_agree desk none) fun _ => ?_
    exact .bind (note_agree _ _) fun _ => .of_pure _

theorem newOperation_agree (c c' : Completion) :
    P.Agree n (newOperation c) (newOperation c') := by
  refine .bind_get fun m le s s' agree => ?_
  rw [agree.operations]
  refine .bind (.of_modify fun _ _ _ _ agree => ?_) fun _ => ?_
  · exact { agree with
      operations := rfl, left := { agree.left with }, right := { agree.right with } }
  · exact .bind (note_agree _ _) fun _ => .of_pure _

/-! ### Completions -/

/-- Whatever application code does next comes to the same in sessions that agree. -/
def Indifferent (P : Pairing) (act : Act) : Prop := ∀ n step, P.Agree n (act step) (act step)

variable {act : Act}

theorem takeStep_agree (indifferent : P.Indifferent act) (step : Step) :
    P.Agree n (takeStep act step) (takeStep act step) :=
  .bind (note_agree _ _) fun _ => indifferent n step

theorem takeSteps_agree (indifferent : P.Indifferent act) (steps : List Step) :
    P.Agree n (takeSteps act steps) (takeSteps act steps) := by
  induction steps with
  | nil => exact .of_pure _
  | cons step rest ih => exact .bind (takeStep_agree indifferent step) fun _ => ih

theorem runSteps_agree (indifferent : P.Indifferent act) (name : String) (steps : List Step) :
    P.Agree n (runSteps act name steps) (runSteps act name steps) := by
  induction steps with
  | nil => exact .of_pure _
  | cons step rest ih =>
    refine .bind (takeStep_agree indifferent step) fun answer => ?_
    exact .bind (note_agree _ _) fun _ => ih

theorem invoke_agree (indifferent : P.Indifferent act) {c c' : Completion}
    (told : P.Completions n c c') (on : Occasion) (status : StatusCode) (payload : Payload) :
    P.Agree n (c.invoke act on status payload) (c'.invoke act on status payload) := by
  have noted : P.Agree n (on.noteConcluded c status payload)
      (on.noteConcluded c' status payload) := by
    unfold Occasion.noteConcluded
    cases on.operation with
    | none => exact .of_pure _
    | some m => exact note_agree _ _
  refine .bind noted fun _ => ?_
  cases told with
  | future linked => exact .bind (setCell_agree linked _) fun _ => .of_pure _
  | nobody => exact .of_pure _
  | handler h =>
    refine .bind (note_agree _ _) fun _ => ?_
    refine .bind (runSteps_agree indifferent _ _) fun _ => ?_
    exact .bind (note_agree _ _) fun _ => .of_pure _

section
variable {ρ : Type} (a : Adapter ρ) {c : Completion}

theorem conclude_agree (indifferent : P.Indifferent act) (told : P.Completions n a.completion c)
    (status : StatusCode) (payload : Payload) :
    P.Agree n (a.conclude act status payload)
      ({ a with completion := c }.conclude act status payload) := by
  have tells := invoke_agree indifferent told a.occasion status payload
  refine .bind (.bind tells fun outcome => ?_) fun _ => .of_pure _
  cases outcome with
  | ok _ => exact .of_pure _
  | error e => exact .bind (store_agree _ e) fun _ => .of_pure _

/-- Callbacks are related as the completions are that they conclude with. -/
theorem adapter_receive_relates (indifferent : P.Indifferent act)
    {R : Nat → State → State → Prop}
    (concludes : ∀ status payload, P.Relates n (a.conclude act status payload)
      ({ a with completion := c }.conclude act status payload) R)
    (id : UInt32) (response : Option ρ) :
    P.Relates n (a.receive act id response) ({ a with completion := c }.receive act id response)
      R := by
  cases response with
  | none =>
    refine .bind (note_agree _ _) fun _ => ?_
    refine .bind (note_agree _ _) fun _ => ?_
    exact .giving (concludes _ _) _
  | some r =>
    refine .bind (takeSteps_agree indifferent _) fun _ => ?_
    rcases a.transform r with ⟨result, rest⟩
    cases result with
    | ok payload =>
      refine .bind (note_agree _ _) fun _ => ?_
      exact .giving (concludes _ _) _
    | error e =>
      refine .bind (note_agree _ _) fun _ => ?_
      refine .bind (note_agree _ _) fun _ => ?_
      exact .giving (concludes _ _) _

theorem adapter_receive_agree (indifferent : P.Indifferent act)
    (told : P.Completions n a.completion c) (id : UInt32) (response : Option ρ) :
    P.Agree n (a.receive act id response) ({ a with completion := c }.receive act id response) :=
  adapter_receive_relates a indifferent (conclude_agree a indifferent told) id response

theorem misdirect_agree (told : P.Completions n a.completion c) :
    P.Agree n a.misdirect { a with completion := c }.misdirect :=
  .bind (note_agree _ _) fun _ => drop_agree told

end

theorem receive_agree (indifferent : P.Indifferent act) {r r' : Receiver}
    (told : P.Receivers n r r') (id : UInt32) (response : Option AnyResponse) :
    P.Agree n (r.receive act id response) (r'.receive act id response) := by
  cases told with
  | adapter a told =>
    exact .bind (adapter_receive_agree a indifferent told id _) fun _ => .of_pure _
  | probe => exact note_agree _ _

/-! ### Submissions -/

theorem submit_loopbacks {m : Nat} {l l' : Loopback} {r r' : Receiver} (same : P.Loopbacks m l l')
    (told : P.Receivers m r r') (service : Service) (body : Option AnyRequest) :
    (l'.submit service body r').1 = (l.submit service body r).1 ∧
      P.Loopbacks m (l.submit service body r).2 (l'.submit service body r').2 := by
  obtain ⟨rest, queue⟩ := same
  have full : l'.isFull = l.isFull := by
    rw [rest]
    simp only [Loopback.isFull, queue.length_eq]
  unfold Loopback.submit
  rw [full]
  generalize l'.queue = queue' at rest queue
  subst rest
  dsimp only
  split
  · exact ⟨rfl, rfl, queue⟩
  · split
    · exact ⟨rfl, rfl, queue⟩
    · split
      · exact ⟨rfl, rfl, queue⟩
      · refine ⟨rfl, rfl, ?_⟩
        exact List.rel_append queue (.cons (.intro _ told) .nil)

theorem setTransport_agree {m : Nat} {l l' : Loopback} (same : P.Loopbacks m l l') :
    P.Agree m (modify fun s => { s with transport := .loopback l })
      (modify fun s => { s with transport := .loopback l' }) :=
  .of_modify fun _ le _ _ agree =>
    { agree with
      transport := ⟨l, l', rfl, rfl, same.mono le⟩
      left := { agree.left with }
      right := { agree.right with } }

theorem handOver_agree {r r' : Receiver} (told : P.Receivers n r r') (service : Service)
    (body : Option AnyRequest) :
    P.Agree n (handOver service body r) (handOver service body r') := by
  refine .bind_get fun m le s s' agree => ?_
  obtain ⟨l, l', here, there, same⟩ := agree.transport
  obtain ⟨result, after⟩ := submit_loopbacks same (told.mono le) service body
  rw [here, there]
  unfold submitTo
  rcases submitted : l.submit service body r with ⟨x, k⟩
  rcases submitted' : l'.submit service body r' with ⟨x', k'⟩
  simp only [submitted, submitted'] at result after ⊢
  obtain rfl : x' = x := result
  cases x' with
  | ok id =>
    refine .bind (setTransport_agree after) fun _ => ?_
    exact .bind (note_agree _ _) fun _ => .of_pure _
  | error status =>
    refine .bind (setTransport_agree after) fun _ => ?_
    exact .bind (note_agree _ _) fun _ => .of_pure _

theorem submit_agree (indifferent : P.Indifferent act) (call : Call) {c c' : Completion}
    (told : P.Completions n c c') : P.Agree n (submit act call c) (submit act call c') := by
  refine .bind (newOperation_agree c c') fun k => ?_
  refine .bind timeOfDay_agree fun now => ?_
  have handed : P.Receivers n (.adapter call.service (call.adapter k c))
      (.adapter call.service (call.adapter k c')) := .adapter (call.adapter k c) told
  refine .bind (handOver_agree handed _ _) fun r => ?_
  cases r with
  | ok id => exact .bind (count_agree _) fun _ => note_agree _ _
  | error e =>
    refine .bind (count_agree _) fun _ => ?_
    refine .bind (note_agree _ _) fun _ => ?_
    split
    · exact misdirect_agree (call.adapter k c) told
    · exact conclude_agree (call.adapter k c) indifferent told _ _

/-! ### Passes -/

theorem answer_requeued (l : Loopback) (queue : List Queued) (now : Timestamp) (q : Queued)
    (r : Receiver) :
    ({ l with queue := queue } : Loopback).answer now { q with receiver := r } =
      ((l.answer now q).1, (l.answer now q).2.1, { (l.answer now q).2.2 with queue := queue }) := by
  unfold Loopback.answer
  dsimp only
  split
  · rfl
  · split
    · split <;> rfl
    · rfl

/-- Requests are served alike up to their receivers. -/
theorem serve_relates {q : Queued} {r : Receiver} {R : Nat → State → State → Prop}
    (receives : ∀ response,
      P.Relates n (q.receiver.receive act q.id response) (r.receive act q.id response) R) :
    P.Relates n (Loopback.serve act q) (Loopback.serve act { q with receiver := r }) R := by
  refine .bind timeOfDay_agree fun now => ?_
  refine .bind_get fun m le s s' agree => ?_
  obtain ⟨l, l', here, there, rest, queue⟩ := agree.transport
  have answers := answer_requeued l l'.queue now q r
  rw [← rest] at answers
  rw [loopback_of here, loopback_of there, answers]
  rcases answered : l.answer now q with ⟨response, os, k⟩
  simp only
  have kept : k.queue = l.queue := (Loopback.answer_keeps answered).1
  have after : P.Loopbacks m k { k with queue := l'.queue } := ⟨rfl, kept ▸ queue⟩
  refine .bind (setTransport_agree after) fun _ => ?_
  refine .bind (noteAll_agree _ _) fun _ => ?_
  refine .bind (note_agree _ _) fun _ => ?_
  refine .bind (note_agree _ _) fun _ => ?_
  exact (receives response).mono le

theorem serve_agree (indifferent : P.Indifferent act) {q q' : Queued} (told : P.Requests n q q') :
    P.Agree n (Loopback.serve act q) (Loopback.serve act q') := by
  cases told with
  | intro told => exact serve_relates (receive_agree indifferent told q.id)

theorem serveAll_agree (indifferent : P.Indifferent act) {batch batch' : List Queued}
    (told : List.Forall₂ (P.Requests n) batch batch') :
    P.Agree n (Loopback.serveAll act batch) (Loopback.serveAll act batch') := by
  induction told with
  | nil => exact .of_pure _
  | cons first _ ih => exact .bind (serve_agree indifferent first) fun _ => ih

theorem abandonAll_agree (indifferent : P.Indifferent act) {batch batch' : List Queued}
    (told : List.Forall₂ (P.Requests n) batch batch') :
    P.Agree n (Loopback.abandonAll act batch) (Loopback.abandonAll act batch') := by
  induction told with
  | nil => exact .of_pure _
  | cons first _ ih =>
    cases first with
    | intro told =>
      refine .bind ?_ fun _ => ih
      exact .bind (note_agree _ _) fun _ => receive_agree indifferent told _ _

theorem pump_agree (indifferent : P.Indifferent act) : P.Agree n (pump act) (pump act) := by
  refine .bind_get fun m le s s' agree => ?_
  obtain ⟨l, l', here, there, -⟩ := agree.transport
  rw [here, there]
  refine .bind_get fun m' le' s s' agree => ?_
  obtain ⟨l, l', here, there, rest, queue⟩ := agree.transport
  rw [loopback_of here, loopback_of there]
  generalize l'.queue = queue' at rest queue
  subst rest
  dsimp only
  rw [← queue.length_eq]
  have emptied : P.Loopbacks m' { l with queue := [] } { l with queue := [] } := ⟨rfl, .nil⟩
  refine .bind (setTransport_agree emptied) fun _ => ?_
  refine .bind (note_agree _ _) fun _ => ?_
  split
  · refine .bind (serveAll_agree indifferent queue) fun _ => ?_
    exact .bind (note_agree _ _) fun _ => .of_pure _
  · refine .bind (abandonAll_agree indifferent queue) fun _ => ?_
    exact .bind (note_agree _ _) fun _ => .of_pure _

theorem finishPass_agree (r : Except Failure Nat) : P.Agree n (finishPass r) (finishPass r) := by
  cases r with
  | error e => exact .of_pure _
  | ok k =>
    refine .bind (count_agree _) fun _ => ?_
    refine .bind (note_agree _ _) fun _ => ?_
    refine .bind (rethrow_agree .client) fun found => ?_
    cases found with
    | none => exact .of_pure _
    | some e =>
      refine .bind (count_agree _) fun _ => ?_
      exact .bind (note_agree _ _) fun _ => .of_pure _

theorem runIterate_agree (indifferent : P.Indifferent act) :
    P.Agree n (runIterate act) (runIterate act) := by
  rw [runIterate_eq]
  exact .bind (pump_agree indifferent) finishPass_agree

/-! ### Waiting -/

theorem hasCome_agree (deadline : Option Nat) :
    P.Agree n (hasCome deadline) (hasCome deadline) := by
  cases deadline with
  | none => exact .of_pure _
  | some t => exact .bind steadyTime_agree fun _ => .of_pure _

theorem waitOr_agree {cell cell' : Nat} (linked : P.Linked n cell cell') (deadline : Option Nat)
    {goOn goOn' : Run (Except Failure Payload)} (h : P.Agree n goOn goOn') :
    P.Agree n (waitOr cell deadline goOn) (waitOr cell' deadline goOn') := by
  refine .bind (takeOutcome_agree linked) fun found => ?_
  cases found with
  | some outcome => exact .of_pure _
  | none =>
    refine .bind (hasCome_agree deadline) fun isLate => ?_
    cases isLate with
    | true =>
      refine .bind_get fun m le s s' agree => ?_
      exact .bind (note_agree _ _) fun _ => .of_pure _
    | false => exact h

theorem wait_agree (indifferent : P.Indifferent act) {cell cell' : Nat}
    (linked : P.Linked n cell cell') (passes : Nat) :
    P.Agree n (wait passes act cell) (wait passes act cell') := by
  refine .bind steadyTime_agree fun start => ?_
  refine .bind_get fun m le s s' agree => ?_
  rw [agree.config]
  have linked := linked.mono le
  generalize deadline? start s.config.requestTimeout = deadline
  induction passes with
  | zero => exact waitOr_agree linked deadline .of_exhausted
  | succ passes ih =>
    refine waitOr_agree linked deadline (.bind (runIterate_agree indifferent) fun r => ?_)
    cases r with
    | error e => exact .of_pure _
    | ok _ => exact ih

end

end Pairing

end OpcUa.Client
