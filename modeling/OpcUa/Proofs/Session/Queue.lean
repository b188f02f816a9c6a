import Mathlib.Data.List.Basic
import OpcUa.Proofs.Session.Loopback
import OpcUa.Proofs.Session.Run

/-!
The queue of the loopback transport, where application code makes no passes and leaves the address
space alone. Then at most one pass is going on, and every move is one of five turns: it leaves the
queue alone, puts a request at its end, takes the queue into a pass, calls back for the next request
of the pass, or ends the pass.
-/

namespace OpcUa.Client

namespace Occurrence

def isMark : Occurrence → Bool
  | passBegan .. | passServed _ | passAbandoned _ => true
  | _ => false

/-- Whether an occurrence tells neither of a request nor of a pass. -/
def isStill : Occurrence → Bool
  | accepted .. | calledBack .. | passBegan .. | passServed _ | passAbandoned _ => false
  | _ => true

theorem isStill_of_isPlain {o : Occurrence} (h : o.isPlain) : o.isStill := by
  cases o <;> first | rfl | cases h

theorem isStill_of_arrival {o : Occurrence} {desk : Desk} {e : Failure}
    (h : o.arrival? = some (desk, e)) : o.isStill := by
  rcases arrival?_eq_some h with rfl | ⟨p, rfl, rfl⟩ | rfl <;> rfl

def passEnded (isConnected : Bool) (n : Nat) : Occurrence :=
  if isConnected then passServed n else passAbandoned n

end Occurrence

/-- Nothing is told of requests and passes. -/
def Still (os : List Occurrence) : Prop := ∀ o ∈ os, o.isStill

/-- The powers of application code that makes no passes and leaves the address space alone. -/
def withoutNesting : Power → List Pass → Prop
  | .pass, passes => passes = []
  | .rethrow, _ => True
  | .space, _ => False

/-- The part of a loopback transport that is the same before and after. -/
structure Loopback.Alike (l l' : Loopback) : Prop where
  queue : l'.queue = l.queue
  next : l'.nextRequestId = l.nextRequestId
  space : l'.space = l.space

/-- What a request got in a pass: nothing, or the address space's answer. -/
def Answers (now : Timestamp) (q : Queued) (space : AddressSpace) (response : Option AnyResponse)
    (after : AddressSpace) : Prop :=
  (response = none ∧ after = space) ∨
    ∃ (request : Request q.service) (given : Response q.service),
      q.body = some ⟨q.service, request⟩ ∧ space.serve now request = (given, after) ∧
      response = some ⟨q.service, given⟩

/-- What a move is to the queue and to the pass that is going on. -/
inductive Turn (p q : Outline) (l l' : Loopback) : Prop
  | still {os : List Occurrence} (quiet : Still os) (history : q.history = p.history ++ os)
      (passes : q.passes = p.passes) (alike : l.Alike l')
  | accept {before after : List Occurrence} {queued : Queued} (quiet : Still before)
      (quiet' : Still after)
      (history : q.history = p.history ++
        (before ++ .accepted queued.id queued.service queued.body :: after))
      (passes : q.passes = p.passes) (id : queued.id = l.nextRequestId)
      (queue : l'.queue = l.queue ++ [queued])
      (next : l'.nextRequestId = Loopback.nextId l.nextRequestId) (space : l'.space = l.space)
  | beginPass (outside : p.passes = [])
      (history : q.history = p.history ++ [.passBegan l.isConnected (l.queue.map Queued.id)])
      (passes : q.passes = [⟨l.isConnected, l.queue.map Queued.id, l.queue⟩])
      (queue : l'.queue = []) (next : l'.nextRequestId = l.nextRequestId)
      (space : l'.space = l.space)
  | call {isConnected : Bool} {ids : List UInt32} {queued : Queued} {rest : List Queued}
      {outer : List Pass} {before : List Occurrence} {response : Option AnyResponse}
      (now : Timestamp) (quiet : Still before)
      (history : q.history = p.history ++ (before ++ [.calledBack queued.id response]))
      (within : p.passes = ⟨isConnected, ids, queued :: rest⟩ :: outer)
      (passes : q.passes = ⟨isConnected, ids, rest⟩ :: outer) (queue : l'.queue = l.queue)
      (next : l'.nextRequestId = l.nextRequestId)
      (answers : Answers now queued l.space response l'.space)
  | endPass {isConnected : Bool} {ids : List UInt32} {outer : List Pass}
      (history : q.history = p.history ++ [.passEnded isConnected ids.length])
      (within : p.passes = ⟨isConnected, ids, []⟩ :: outer) (passes : q.passes = outer)
      (alike : l.Alike l')

theorem Still.nil : Still [] := by
  intro o member
  cases member

theorem Still.single {o : Occurrence} (h : o.isStill) : Still [o] := by
  intro o' member
  rw [List.mem_singleton.mp member]
  exact h

theorem Loopback.Alike.refl (l : Loopback) : l.Alike l := ⟨rfl, rfl, rfl⟩

theorem Move.turn {p q : Outline} {l : Loopback} (m : Move withoutNesting p q)
    (loopback : p.transport = .loopback l) :
    ∃ l', q.transport = .loopback l' ∧ Turn p q l l' := by
  cases m with
  | plain isPlain =>
    have quiet := Still.single (Occurrence.isStill_of_isPlain isPlain)
    exact ⟨l, loopback, .still quiet rfl rfl (.refl l)⟩
  | @accept k k' s body r id c here taken own =>
    obtain rfl := loopback_inj here loopback
    obtain ⟨rfl, rfl⟩ := Loopback.submit_ok taken
    have began : Still [.began p.operations c] := .single rfl
    have submitted : Still [.submitted p.operations k.nextRequestId s] := .single rfl
    exact ⟨_, rfl, .accept began submitted rfl rfl rfl rfl rfl rfl⟩
  | @refuse k k' s body r status c here refused own =>
    obtain rfl := loopback_inj here loopback
    obtain rfl := Loopback.submit_error refused
    exact ⟨_, rfl, .still (by simp [Still, Occurrence.isStill]) rfl rfl ⟨rfl, rfl, rfl⟩⟩
  | @acceptOther k k' s body r id here taken own =>
    obtain rfl := loopback_inj here loopback
    obtain ⟨rfl, rfl⟩ := Loopback.submit_ok taken
    exact ⟨_, rfl, .accept .nil .nil rfl rfl rfl rfl rfl rfl⟩
  | @refuseOther k k' s body r status here refused own =>
    obtain rfl := loopback_inj here loopback
    obtain rfl := Loopback.submit_error refused
    exact ⟨_, rfl, .still (.single rfl) rfl rfl ⟨rfl, rfl, rfl⟩⟩
  | @beginPass k here allowed =>
    obtain rfl := loopback_inj here loopback
    have outside : p.passes = [] := allowed
    exact ⟨_, rfl, .beginPass outside rfl (by simp [outside]) rfl rfl rfl⟩
  | @serve k k' ids queued rest outer response os now here within answered =>
    obtain rfl := loopback_inj here loopback
    obtain ⟨queue, next, -⟩ := Loopback.answer_keeps answered
    have split : os ++ [.served queued.id queued.service queued.body response,
        .calledBack queued.id response] =
        (os ++ [.served queued.id queued.service queued.body response]) ++
          [.calledBack queued.id response] := by simp
    refine ⟨_, rfl, .call now ?_ (congrArg (p.history ++ ·) split) within rfl queue next ?_⟩
    · intro o member
      rcases List.mem_append.mp member with noted | told
      · exact Occurrence.isStill_of_isPlain (Loopback.answer_plain answered o noted)
      · rw [List.mem_singleton.mp told]
        rfl
    · rcases Loopback.answer_cases answered with
        ⟨none, drop, rfl⟩ | ⟨request, given, space, body, serves, some, rfl⟩
      · exact .inl ⟨none, rfl⟩
      · exact .inr ⟨request, given, body, serves, some⟩
  | @abandon k ids queued rest outer here within =>
    obtain rfl := loopback_inj here loopback
    exact ⟨k, here, .call .epoch .nil rfl within rfl rfl rfl (.inl ⟨rfl, rfl⟩)⟩
  | @endPass k isConnected ids outer here within =>
    obtain rfl := loopback_inj here loopback
    exact ⟨k, here, .endPass rfl within rfl (.refl k)⟩
  | conclude next =>
    exact ⟨l, loopback, .still (.single rfl) rfl rfl (.refl l)⟩
  | @fail o desk e arrives =>
    refine ⟨l, loopback, .still ?_ rfl rfl (.refl l)⟩
    intro o' member
    rcases List.mem_pair.mp member with rfl | rfl
    · exact Occurrence.isStill_of_arrival arrives
    · cases p.held desk <;> rfl
  | rethrow holds allowed =>
    exact ⟨l, loopback, .still (.single rfl) rfl rfl (.refl l)⟩
  | finish n =>
    exact ⟨l, loopback, .still (.single rfl) rfl rfl (.refl l)⟩
  | report context e =>
    exact ⟨l, loopback, .still (.single rfl) rfl rfl (.refl l)⟩
  | @steer k k' os here steering =>
    obtain rfl := loopback_inj here loopback
    have quiet : Still os := by cases steering <;> simp [Still, Occurrence.isStill]
    have alike : k.Alike k' := by cases steering <;> exact ⟨rfl, rfl, rfl⟩
    exact ⟨k', rfl, .still quiet rfl rfl alike⟩
  | change space here allowed => exact absurd allowed id
  | elsewhere prepared apart => cases prepared.symm.trans loopback

/-! ### What is told of requests -/

/-- A request as it was accepted. -/
structure Entry where
  id : UInt32
  service : Service
  body : Option AnyRequest

def Queued.entry (q : Queued) : Entry := ⟨q.id, q.service, q.body⟩

def Occurrence.accepted? : Occurrence → Option Entry
  | accepted id service body => some ⟨id, service, body⟩
  | _ => none

def Occurrence.calledBack? : Occurrence → Option (UInt32 × Option AnyResponse)
  | calledBack id response => some (id, response)
  | _ => none

def acceptedIn (os : List Occurrence) : List Entry := os.filterMap Occurrence.accepted?

/-- The callbacks, in order: whose they were, and what they got. -/
def calledIn (os : List Occurrence) : List (UInt32 × Option AnyResponse) :=
  os.filterMap Occurrence.calledBack?

def acceptedIds (os : List Occurrence) : List UInt32 := (acceptedIn os).map Entry.id

def calledIds (os : List Occurrence) : List UInt32 := (calledIn os).map Prod.fst

theorem acceptedIn_append (a b : List Occurrence) :
    acceptedIn (a ++ b) = acceptedIn a ++ acceptedIn b :=
  List.filterMap_append

theorem calledIn_append (a b : List Occurrence) : calledIn (a ++ b) = calledIn a ++ calledIn b :=
  List.filterMap_append

theorem acceptedIds_append (a b : List Occurrence) :
    acceptedIds (a ++ b) = acceptedIds a ++ acceptedIds b := by
  simp [acceptedIds, acceptedIn_append]

theorem calledIds_append (a b : List Occurrence) :
    calledIds (a ++ b) = calledIds a ++ calledIds b := by
  simp [calledIds, calledIn_append]

theorem Still.acceptedIn {os : List Occurrence} (h : Still os) : acceptedIn os = [] := by
  unfold Client.acceptedIn
  rw [List.filterMap_eq_nil_iff]
  intro o member
  have isStill := h o member
  cases o <;> first | rfl | cases isStill

theorem Still.calledIn {os : List Occurrence} (h : Still os) : calledIn os = [] := by
  unfold Client.calledIn
  rw [List.filterMap_eq_nil_iff]
  intro o member
  have isStill := h o member
  cases o <;> first | rfl | cases isStill

/-! ### What a turn tells -/

section
variable {p q : Outline} {l l' : Loopback}

/-- The requests whose callback is still to come. -/
def Outline.waiting (p : Outline) (l : Loopback) : List Queued :=
  p.passes.flatMap Pass.rest ++ l.queue

/-- What a turn does to the requests that were accepted, to the callbacks, and to the requests in
between. -/
theorem Turn.requests (turn : Turn p q l l') :
    (acceptedIn q.history = acceptedIn p.history ∧ calledIn q.history = calledIn p.history ∧
      q.waiting l' = p.waiting l ∧ l'.nextRequestId = l.nextRequestId ∧ l'.space = l.space) ∨
    (∃ queued, acceptedIn q.history = acceptedIn p.history ++ [queued.entry] ∧
      calledIn q.history = calledIn p.history ∧ q.waiting l' = p.waiting l ++ [queued] ∧
      queued.id = l.nextRequestId ∧ l'.nextRequestId = Loopback.nextId l.nextRequestId ∧
      l'.space = l.space) ∨
    (∃ now queued response, acceptedIn q.history = acceptedIn p.history ∧
      calledIn q.history = calledIn p.history ++ [(queued.id, response)] ∧
      p.waiting l = queued :: q.waiting l' ∧ l'.nextRequestId = l.nextRequestId ∧
      Answers now queued l.space response l'.space) := by
  cases turn with
  | still quiet history passes alike =>
    refine .inl ⟨?_, ?_, ?_, alike.next, alike.space⟩
    · rw [history, acceptedIn_append, quiet.acceptedIn, List.append_nil]
    · rw [history, calledIn_append, quiet.calledIn, List.append_nil]
    · simp [Outline.waiting, passes, alike.queue]
  | @accept before after queued quiet quiet' history passes id queue next space =>
    have told : before ++ .accepted queued.id queued.service queued.body :: after =
        before ++ [.accepted queued.id queued.service queued.body] ++ after := by simp
    refine .inr (.inl ⟨queued, ?_, ?_, ?_, id, next, space⟩)
    · rw [history, told]
      simp only [acceptedIn_append, quiet.acceptedIn, quiet'.acceptedIn]
      simp [acceptedIn, Occurrence.accepted?, Queued.entry]
    · rw [history, told]
      simp only [calledIn_append, quiet.calledIn, quiet'.calledIn]
      simp [calledIn, Occurrence.calledBack?]
    · simp [Outline.waiting, passes, queue]
  | beginPass outside history passes queue next space =>
    refine .inl ⟨?_, ?_, ?_, next, space⟩
    · simp [history, acceptedIn, Occurrence.accepted?]
    · simp [history, calledIn, Occurrence.calledBack?]
    · simp [Outline.waiting, outside, passes, queue]
  | @call isConnected ids queued rest outer before response now quiet history within passes queue
      next answers =>
    refine .inr (.inr ⟨now, queued, response, ?_, ?_, ?_, next, answers⟩)
    · rw [history]
      simp only [acceptedIn_append, quiet.acceptedIn]
      simp [acceptedIn, Occurrence.accepted?]
    · rw [history]
      simp only [calledIn_append, quiet.calledIn]
      simp [calledIn, Occurrence.calledBack?]
    · simp [Outline.waiting, within, passes, queue]
  | @endPass isConnected ids outer history within passes alike =>
    refine .inl ⟨?_, ?_, ?_, alike.next, alike.space⟩
    · cases isConnected <;> simp [history, acceptedIn, Occurrence.accepted?, Occurrence.passEnded]
    · cases isConnected <;> simp [history, calledIn, Occurrence.calledBack?, Occurrence.passEnded]
    · simp [Outline.waiting, within, passes, alike.queue]

end

/-! ### Numbers -/

/-- The identifier of the request that is accepted after so many others: they count from 1, and from
1 again where 32 bits end. -/
def requestIdAt (k : Nat) : UInt32 := UInt32.ofNat (k % (UInt32.size - 1) + 1)

theorem toNat_requestIdAt (k : Nat) : (requestIdAt k).toNat = k % (UInt32.size - 1) + 1 := by
  have bound : k % (UInt32.size - 1) < UInt32.size - 1 := Nat.mod_lt _ (by decide)
  unfold requestIdAt
  rw [UInt32.toNat_ofNat']
  unfold UInt32.size at bound ⊢
  omega

theorem nextId_requestIdAt (k : Nat) : Loopback.nextId (requestIdAt k) = requestIdAt (k + 1) := by
  have here := toNat_requestIdAt k
  have there := toNat_requestIdAt (k + 1)
  have sum : (requestIdAt k + 1).toNat = ((requestIdAt k).toNat + 1) % 2 ^ 32 :=
    UInt32.toNat_add (requestIdAt k) 1
  have one : (1 : UInt32).toNat = 1 := rfl
  unfold UInt32.size at here there
  rw [← UInt32.toNat_inj]
  unfold Loopback.nextId
  split
  next isZero =>
    have zero : (requestIdAt k + 1).toNat = 0 := congrArg UInt32.toNat isZero
    rw [one, there]
    omega
  next notZero =>
    have positive : (requestIdAt k + 1).toNat ≠ 0 := fun zero => notZero (UInt32.toNat_inj.mp zero)
    rw [sum, there]
    omega

/-- The requests that were accepted are numbered in order, and so will be the next one. -/
def Numbered (os : List Occurrence) (next : UInt32) : Prop :=
  acceptedIds os = (List.range (acceptedIn os).length).map requestIdAt ∧
    next = requestIdAt (acceptedIn os).length

theorem Numbered.turn {p q : Outline} {l l' : Loopback} (h : Numbered p.history l.nextRequestId)
    (turn : Turn p q l l') : Numbered q.history l'.nextRequestId := by
  unfold Numbered acceptedIds at *
  rcases turn.requests with ⟨accepted, -, -, next, -⟩ | ⟨queued, accepted, -, -, id, next, -⟩ |
    ⟨_, _, _, accepted, -, -, next, -⟩
  · rw [accepted, next]
    exact h
  · obtain ⟨ids, nextId⟩ := h
    have new : queued.entry.id = requestIdAt (acceptedIn p.history).length := id.trans nextId
    rw [accepted, next, List.map_append, ids, List.length_append, List.length_singleton,
      List.range_succ, List.map_append, nextId, nextId_requestIdAt]
    simp [new]
  · rw [accepted, next]
    exact h

/-! ### Passes -/

/-- The histories that are made of whole passes. A pass invokes the callbacks of the requests that
were queued when it began, in their order, and what is accepted meanwhile stays in the queue. -/
inductive InPasses : List Occurrence → Prop
  | empty : InPasses []
  | between {os : List Occurrence} {o : Occurrence} (before : InPasses os)
      (noMark : o.isMark = false) (noCall : o.calledBack? = none) : InPasses (os ++ [o])
  | pass {os within : List Occurrence} {isConnected : Bool} {ids : List UInt32}
      (before : InPasses os) (queued : acceptedIds os = calledIds os ++ ids)
      (noMark : ∀ o ∈ within, o.isMark = false)
      (calls : calledIds within = ids)
      (stays : acceptedIds (os ++ .passBegan isConnected ids :: within) =
        calledIds (os ++ .passBegan isConnected ids :: within) ++ acceptedIds within) :
      InPasses (os ++ .passBegan isConnected ids :: within ++ [.passEnded isConnected ids.length])

/-- A history that is made of whole passes, and of a part of the pass that is going on, if any. -/
def Passing (os : List Occurrence) : List Pass → Prop
  | [] => InPasses os
  | [pass] => ∃ before within, os = before ++ .passBegan pass.isConnected pass.ids :: within ∧
      InPasses before ∧ acceptedIds before = calledIds before ++ pass.ids ∧
      (∀ o ∈ within, o.isMark = false) ∧ calledIds within ++ pass.rest.map Queued.id = pass.ids
  | _ => False

theorem InPasses.still {os more : List Occurrence} (h : InPasses os)
    (noMark : ∀ o ∈ more, o.isMark = false) (noCall : calledIn more = []) :
    InPasses (os ++ more) := by
  induction more generalizing os with
  | nil => simpa using h
  | cons o more ih =>
    have quiet : o.calledBack? = none ∧ calledIn more = [] := by
      unfold calledIn at noCall
      rw [List.filterMap_cons] at noCall
      cases call : o.calledBack? <;> simp_all [calledIn]
    have next : InPasses (os ++ [o]) := h.between (noMark o List.mem_cons_self) quiet.1
    have rest := ih next (fun o member => noMark o (List.mem_cons_of_mem _ member)) quiet.2
    simpa using rest

theorem Still.noMark {os : List Occurrence} (h : Still os) : ∀ o ∈ os, o.isMark = false := by
  intro o member
  have isStill := h o member
  cases o <;> first | rfl | cases isStill

theorem Passing.still {os more : List Occurrence} {passes : List Pass} (h : Passing os passes)
    (noMark : ∀ o ∈ more, o.isMark = false) (noCall : calledIn more = []) :
    Passing (os ++ more) passes := by
  match passes with
  | [] => exact InPasses.still h noMark noCall
  | [pass] =>
    obtain ⟨before, within, rfl, whole, queued, noMark', calls⟩ := h
    refine ⟨before, within ++ more, by simp, whole, queued, ?_, ?_⟩
    · intro o member
      rcases List.mem_append.mp member with old | new
      · exact noMark' o old
      · exact noMark o new
    · have none : calledIds more = [] := by simp [calledIds, noCall]
      rw [calledIds_append, none, List.append_nil]
      exact calls

theorem Passing.turn {p q : Outline} {l l' : Loopback} (h : Passing p.history p.passes)
    (order : acceptedIds p.history = calledIds p.history ++ (p.waiting l).map Queued.id)
    (turn : Turn p q l l') : Passing q.history q.passes := by
  cases turn with
  | still quiet history passes alike =>
    rw [history, passes]
    exact h.still quiet.noMark quiet.calledIn
  | @accept before after queued quiet quiet' history passes =>
    rw [history, passes]
    refine h.still ?_ ?_
    · intro o member
      simp only [List.mem_append, List.mem_cons] at member
      rcases member with early | rfl | late
      · exact quiet.noMark o early
      · rfl
      · exact quiet'.noMark o late
    · have told : before ++ .accepted queued.id queued.service queued.body :: after =
          before ++ [.accepted queued.id queued.service queued.body] ++ after := by simp
      rw [told]
      simp only [calledIn_append, quiet.calledIn, quiet'.calledIn]
      simp [calledIn, Occurrence.calledBack?]
  | beginPass outside history passes =>
    rw [outside] at h
    rw [history, passes]
    refine ⟨p.history, [], rfl, h, ?_, by simp, rfl⟩
    simpa [Outline.waiting, outside] using order
  | @call isConnected ids queued rest outer told response now quiet history within passes =>
    rw [within] at h
    rw [history, passes]
    match outer with
    | [] =>
      obtain ⟨before, inside, same, whole, waited, noMark, calls⟩ := h
      refine ⟨before, inside ++ (told ++ [.calledBack queued.id response]), by simp [same], whole,
        waited, ?_, ?_⟩
      · intro o member
        simp only [List.mem_append, List.mem_singleton] at member
        rcases member with old | early | rfl
        · exact noMark o old
        · exact quiet.noMark o early
        · rfl
      · have one : calledIds (told ++ [.calledBack queued.id response]) = [queued.id] := by
          simp only [calledIds, calledIn_append, quiet.calledIn]
          rfl
        rw [calledIds_append, one]
        simpa using calls
  | @endPass isConnected ids outer history within passes =>
    rw [within] at h
    rw [history, passes]
    match outer with
    | [] =>
      obtain ⟨before, inside, same, whole, waited, noMark, calls⟩ := h
      have all : calledIds inside = ids := by simpa using calls
      have began : calledIds [Occurrence.passBegan isConnected ids] = [] := rfl
      have began' : acceptedIds [Occurrence.passBegan isConnected ids] = [] := rfl
      rw [same]
      refine whole.pass waited noMark all ?_
      rw [List.append_cons, acceptedIds_append, acceptedIds_append, calledIds_append,
        calledIds_append, waited, all, began, began']
      simp

end OpcUa.Client
