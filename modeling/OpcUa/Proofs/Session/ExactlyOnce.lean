import Mathlib.Data.List.Count
import OpcUa.Proofs.Session.Callback
import OpcUa.Proofs.Session.Loopback
import OpcUa.Proofs.Session.Steps

/-!
Every operation on the server is concluded once. At any moment an operation is in one place: its
request waits in the queue or in a pass that is going on, its outcome is on its way, or its
completion was invoked. No move puts it into two places or into none.
-/

namespace OpcUa.Client

open Run

/-! ### Where operations are -/

def Occurrence.begun? : Occurrence → Option (Nat × Completion)
  | began n c => some (n, c)
  | _ => none

/-- The operations that were started, with the completions that they were started for. -/
def begunIn (os : List Occurrence) : List (Nat × Completion) := os.filterMap Occurrence.begun?

/-- The operations that were concluded, with the completions that were invoked, as often as they
were. -/
def concludedIn (os : List Occurrence) : List (Nat × Completion) :=
  os.filterMap Occurrence.concluded?

def operationsOf (queue : List Queued) : List (Nat × Completion) := queue.filterMap Queued.charge?

def State.queuedOperations (s : State) : List (Nat × Completion) := operationsOf s.loopback.queue

/-- The places where operations are, of a session over the loopback transport `l`. -/
def Outline.places (p : Outline) (l : Loopback) : List (Nat × Completion) :=
  concludedIn p.history ++ p.due ++ operationsOf (p.passes.flatMap Pass.rest) ++
    operationsOf l.queue

/-- Every operation that was started is in one place, and the counters count them. -/
structure Balanced (p : Outline) (l : Loopback) : Prop where
  loopback : p.transport = .loopback l
  numbered : (begunIn p.history).map Prod.fst = List.range p.operations
  places : (p.places l).Perm (begunIn p.history)
  counted : ∃ submitted rejected, p.operations = submitted + rejected ∧
    p.stats.submitted = min submitted (UInt64.size - 1) ∧
    p.stats.rejected = min rejected (UInt64.size - 1)

/-! ### What happens to the places -/

theorem begunIn_append (a b : List Occurrence) : begunIn (a ++ b) = begunIn a ++ begunIn b :=
  List.filterMap_append

theorem concludedIn_append (a b : List Occurrence) :
    concludedIn (a ++ b) = concludedIn a ++ concludedIn b :=
  List.filterMap_append

theorem operationsOf_append (a b : List Queued) :
    operationsOf (a ++ b) = operationsOf a ++ operationsOf b :=
  List.filterMap_append

theorem operationsOf_cons (q : Queued) (rest : List Queued) :
    operationsOf (q :: rest) = q.charge?.toList ++ operationsOf rest := by
  unfold operationsOf
  cases h : q.charge? <;> simp [h]

def Uneventful (os : List Occurrence) : Prop := begunIn os = [] ∧ concludedIn os = []

theorem Uneventful.of_plain {os : List Occurrence} (h : ∀ o ∈ os, o.isPlain) : Uneventful os := by
  unfold Uneventful begunIn concludedIn
  simp only [List.filterMap_eq_nil_iff]
  constructor
  · intro o member
    have isPlain := h o member
    unfold Occurrence.begun?
    split
    · cases isPlain
    · rfl
  · exact fun o member => Occurrence.concluded?_of_isPlain (h o member)

theorem Uneventful.append {a b : List Occurrence} (ha : Uneventful a) (hb : Uneventful b) :
    Uneventful (a ++ b) := by
  constructor
  · rw [begunIn_append, ha.1, hb.1, List.append_nil]
  · rw [concludedIn_append, ha.2, hb.2, List.append_nil]

theorem Uneventful.of_arrival {o : Occurrence} {desk : Desk} {e : Failure} (held : Option Failure)
    (arrives : o.arrival? = some (desk, e)) : Uneventful [o, .verdict desk held e] := by
  rcases Occurrence.arrival?_eq_some arrives with rfl | ⟨p, rfl, rfl⟩ | rfl <;>
    cases held <;> exact ⟨rfl, rfl⟩

theorem bump_min (a : Nat) :
    Stats.bump (min a (UInt64.size - 1)) 1 = min (a + 1) (UInt64.size - 1) := by
  unfold Stats.bump
  omega

/-- An operation that is concluded at once comes to its place from outside. -/
theorem perm_arrive {α : Type} (concluded due rest queue : List α) (x : α) :
    (concluded ++ x :: due ++ rest ++ queue).Perm (concluded ++ due ++ rest ++ queue ++ [x]) := by
  classical
  rw [List.perm_iff_count]
  intro m
  simp only [List.count_append, List.count_cons, List.count_nil]
  omega

/-- A request leaves its pass as its outcome sets out. -/
theorem perm_come {α : Type} (concluded due first rest queue : List α) :
    (concluded ++ (first ++ due) ++ rest ++ queue).Perm
      (concluded ++ due ++ (first ++ rest) ++ queue) := by
  classical
  rw [List.perm_iff_count]
  intro m
  simp only [List.count_append]
  omega

namespace Balanced

variable {p : Outline} {l l' : Loopback}

/-- Balance is kept where no operation is started, and none leaves one place without coming to
another. -/
theorem shift {q : Outline} {os : List Occurrence} (h : Balanced p l)
    (loopback : q.transport = .loopback l') (history : q.history = p.history ++ os)
    (operations : q.operations = p.operations) (begun : begunIn os = [])
    (submitted : q.stats.submitted = p.stats.submitted)
    (rejected : q.stats.rejected = p.stats.rejected)
    (places : (q.places l').Perm (p.places l)) : Balanced q l' where
  loopback := loopback
  numbered := by rw [history, begunIn_append, begun, List.append_nil, operations, h.numbered]
  places := by
    rw [history, begunIn_append, begun, List.append_nil]
    exact places.trans h.places
  counted := by rw [operations, submitted, rejected]; exact h.counted

/-- Balance is kept where every operation stays in its place. -/
theorem still {q : Outline} {os : List Occurrence} (h : Balanced p l)
    (loopback : q.transport = .loopback l') (queue : l'.queue = l.queue)
    (history : q.history = p.history ++ os) (quiet : Uneventful os)
    (operations : q.operations = p.operations) (submitted : q.stats.submitted = p.stats.submitted)
    (rejected : q.stats.rejected = p.stats.rejected) (passes : q.passes = p.passes)
    (due : q.due = p.due) : Balanced q l' := by
  refine h.shift loopback history operations quiet.1 submitted rejected ?_
  have same : q.places l' = p.places l := by
    unfold Outline.places
    rw [history, concludedIn_append, quiet.2, List.append_nil, due, passes, queue]
  rw [same]

/-- Balance is kept where an operation is started, and comes to a place. -/
theorem grow {q : Outline} {os : List Occurrence} {c : Completion} (h : Balanced p l)
    (loopback : q.transport = .loopback l') (history : q.history = p.history ++ os)
    (operations : q.operations = p.operations + 1) (begun : begunIn os = [(p.operations, c)])
    (counted : ∃ submitted rejected, q.operations = submitted + rejected ∧
      q.stats.submitted = min submitted (UInt64.size - 1) ∧
      q.stats.rejected = min rejected (UInt64.size - 1))
    (places : (q.places l').Perm (p.places l ++ [(p.operations, c)])) : Balanced q l' where
  loopback := loopback
  numbered := by
    rw [history, begunIn_append, begun, List.map_append, h.numbered, operations, List.range_succ]
    rfl
  places := by
    rw [history, begunIn_append, begun]
    exact places.trans (h.places.append_right _)
  counted := counted

end Balanced

theorem Balanced.move {may : Power → List Pass → Prop} {p q : Outline} {l : Loopback}
    (h : Balanced p l) (m : Move may p q) : ∃ l', Balanced q l' := by
  cases m with
  | plain isPlain =>
    have quiet := Uneventful.of_plain (List.forall_mem_singleton.mpr isPlain)
    exact ⟨l, h.still h.loopback rfl rfl quiet rfl rfl rfl rfl rfl⟩
  | @accept k k' s body r id c loopback taken own =>
    obtain rfl := loopback_inj loopback h.loopback
    obtain ⟨-, rfl⟩ := Loopback.submit_ok taken
    obtain ⟨submitted, rejected, sum, isSubmitted, isRejected⟩ := h.counted
    refine ⟨_, h.grow rfl rfl rfl rfl ⟨submitted + 1, rejected, ?_, ?_, isRejected⟩ ?_⟩
    · simp only [sum]
      omega
    · simp only [isSubmitted, bump_min]
    · have joins : operationsOf [⟨id, s, body, r⟩] = [(p.operations, c)] := by
        simp [operationsOf, Queued.charge?, own]
      have quiet : concludedIn
          [.began p.operations c, .accepted id s body, .submitted p.operations id s] = [] := rfl
      simp [Outline.places, concludedIn_append, operationsOf_append, joins, quiet]
  | @refuse k k' s body r status c loopback refused own =>
    obtain rfl := loopback_inj loopback h.loopback
    obtain rfl := Loopback.submit_error refused
    obtain ⟨submitted, rejected, sum, isSubmitted, isRejected⟩ := h.counted
    refine ⟨_, h.grow rfl rfl rfl rfl ⟨submitted, rejected + 1, ?_, isSubmitted, ?_⟩ ?_⟩
    · simp only [sum]
      omega
    · simp only [isRejected, bump_min]
    · have quiet : concludedIn
          [.began p.operations c, .refused s status, .rejected p.operations s status] = [] := rfl
      simp only [Outline.places, concludedIn_append, quiet, List.append_nil]
      exact perm_arrive _ _ _ _ _
  | @acceptOther k k' s body r id loopback taken own =>
    obtain rfl := loopback_inj loopback h.loopback
    obtain ⟨-, rfl⟩ := Loopback.submit_ok taken
    refine ⟨_, h.shift rfl rfl rfl rfl rfl rfl ?_⟩
    have joins : operationsOf [⟨id, s, body, r⟩] = [] := by
      simp [operationsOf, Queued.charge?, own]
    have quiet : concludedIn [.accepted id s body] = [] := rfl
    simp [Outline.places, Outline.add, Outline.move, concludedIn_append, operationsOf_append, joins,
      quiet]
  | @refuseOther k k' s body r status loopback refused own =>
    obtain rfl := loopback_inj loopback h.loopback
    obtain rfl := Loopback.submit_error refused
    have quiet : Uneventful [.refused s status] := ⟨rfl, rfl⟩
    exact ⟨_, h.still rfl rfl rfl quiet rfl rfl rfl rfl rfl⟩
  | @beginPass k loopback allowed =>
    obtain rfl := loopback_inj loopback h.loopback
    refine ⟨_, h.shift rfl rfl rfl rfl rfl rfl ?_⟩
    have quiet : concludedIn [.passBegan k.isConnected (k.queue.map Queued.id)] = [] := rfl
    have empty : operationsOf [] = [] := rfl
    simp only [Outline.places, concludedIn_append, quiet, empty, List.append_nil,
      List.flatMap_cons, operationsOf_append, List.append_assoc, List.perm_append_left_iff]
    exact List.perm_append_comm
  | @serve k k' ids q rest outer response os now loopback passes answered =>
    obtain rfl := loopback_inj loopback h.loopback
    have kept := (Loopback.answer_keeps answered).1
    have before := Uneventful.of_plain (Loopback.answer_plain answered)
    have told : Uneventful [.served q.id q.service q.body response, .calledBack q.id response] :=
      ⟨rfl, rfl⟩
    have quiet := before.append told
    refine ⟨_, h.shift rfl rfl rfl quiet.1 rfl rfl ?_⟩
    simp only [Outline.places, concludedIn_append, quiet.2, List.append_nil, passes, kept,
      List.flatMap_cons, List.cons_append, operationsOf_cons]
    exact perm_come _ _ _ _ _
  | @abandon k ids q rest outer loopback passes =>
    obtain rfl := loopback_inj loopback h.loopback
    refine ⟨_, h.shift loopback rfl rfl rfl rfl rfl ?_⟩
    have quiet : concludedIn [.calledBack q.id none] = [] := rfl
    simp only [Outline.places, concludedIn_append, quiet, List.append_nil, passes,
      List.flatMap_cons, List.cons_append, operationsOf_cons]
    exact perm_come _ _ _ _ _
  | @endPass k isConnected ids outer loopback passes =>
    obtain rfl := loopback_inj loopback h.loopback
    have quiet : Uneventful
        [if isConnected then .passServed ids.length else .passAbandoned ids.length] := by
      cases isConnected <;> exact ⟨rfl, rfl⟩
    refine ⟨_, h.shift loopback rfl rfl quiet.1 rfl rfl ?_⟩
    simp [Outline.places, concludedIn_append, quiet.2, passes]
  | @conclude n c status payload due next =>
    refine ⟨l, h.shift h.loopback rfl rfl rfl rfl rfl ?_⟩
    have told : concludedIn [.concluded n c status payload] = [(n, c)] := rfl
    simp [Outline.places, concludedIn_append, told, next]
  | @fail o desk e arrives =>
    have quiet := Uneventful.of_arrival (p.held desk) arrives
    exact ⟨l, h.still h.loopback rfl rfl quiet rfl rfl rfl rfl rfl⟩
  | @rethrow desk e holds allowed =>
    have quiet : Uneventful [.failureRethrown desk e] := ⟨rfl, rfl⟩
    exact ⟨l, h.still h.loopback rfl rfl quiet rfl rfl rfl rfl rfl⟩
  | finish n =>
    have quiet : Uneventful [.passFinished n] := ⟨rfl, rfl⟩
    exact ⟨l, h.still h.loopback rfl rfl quiet rfl rfl rfl rfl rfl⟩
  | report context e =>
    have quiet : Uneventful [.reported context e] := ⟨rfl, rfl⟩
    exact ⟨l, h.still h.loopback rfl rfl quiet rfl rfl rfl rfl rfl⟩
  | @steer k k' os loopback steering =>
    obtain rfl := loopback_inj loopback h.loopback
    have kept : k'.queue = k.queue := by cases steering <;> rfl
    have quiet : Uneventful os := by cases steering <;> exact ⟨rfl, rfl⟩
    exact ⟨_, h.still rfl kept rfl quiet rfl rfl rfl rfl rfl⟩
  | @change k space loopback allowed =>
    obtain rfl := loopback_inj loopback h.loopback
    have same : p.history = p.history ++ [] := (List.append_nil _).symm
    exact ⟨_, h.still rfl rfl same ⟨rfl, rfl⟩ rfl rfl rfl rfl rfl⟩
  | elsewhere prepared apart => cases prepared.symm.trans h.loopback

theorem Balanced.run {may : Power → List Pass → Prop} {p q : Outline} {l : Loopback}
    (h : Balanced p l) (moves : Relation.ReflTransGen (Move may) p q) : ∃ l', Balanced q l' := by
  induction moves with
  | refl => exact ⟨l, h⟩
  | tail _ last ih =>
    obtain ⟨k, before⟩ := ih
    exact before.move last

theorem Balanced.start (config : Config) (clocks : Clocks) {l : Loopback} (empty : l.queue = []) :
    Balanced ((State.start config (.loopback l) clocks).outline [] []) l where
  loopback := rfl
  numbered := rfl
  places := by
    simp only [Outline.places, empty]
    exact .refl _
  counted := ⟨0, 0, rfl, rfl, rfl⟩

/-- No operation is in two places. -/
theorem Balanced.distinct {p : Outline} {l : Loopback} (h : Balanced p l) :
    ((p.places l).map Prod.fst).Nodup := by
  rw [(h.places.map Prod.fst).nodup_iff, h.numbered]
  exact List.nodup_range

theorem Balanced.once {p : Outline} {l : Loopback} (h : Balanced p l) :
    ((concludedIn p.history).map Prod.fst).Nodup := by
  have first : concludedIn p.history <+: p.places l :=
    (List.prefix_append _ _).trans ((List.prefix_append _ _).trans (List.prefix_append _ _))
  exact h.distinct.sublist (first.sublist.map Prod.fst)

/-! ### Between steps -/

/-- A session over the loopback transport in which every operation on the server is either
concluded, once, by the completion that it was started for, or has its request in the queue. -/
structure State.Settled (s : State) : Prop where
  numbered : (begunIn s.history).map Prod.fst = List.range s.operations
  once : ((concludedIn s.history).map Prod.fst).Nodup
  own : ∀ x ∈ concludedIn s.history, x ∈ begunIn s.history
  pending : ∀ n c, (n, c) ∈ begunIn s.history ∧ n ∉ (concludedIn s.history).map Prod.fst ↔
    (n, c) ∈ s.queuedOperations
  total : (concludedIn s.history).length + s.queuedOperations.length = (begunIn s.history).length
  counted : (begunIn s.history).length < UInt64.size →
    (begunIn s.history).length = s.stats.submitted + s.stats.rejected
  /-- Whatever is on record as concluding an operation was invoked. -/
  carried : Carries s.history

/-- Where no pass is going on and no outcome is on its way, a balanced session is settled. -/
theorem Balanced.settled {s : State} {l : Loopback} (h : Balanced (s.outline [] []) l)
    (carried : Carries s.history) : s.Settled := by
  have queued : s.queuedOperations = operationsOf l.queue := by
    have isLoopback : s.transport = .loopback l := h.loopback
    simp [State.queuedOperations, State.loopback, isLoopback]
  have numbered : (begunIn s.history).map Prod.fst = List.range s.operations := h.numbered
  have whole : (s.outline [] []).places l = concludedIn s.history ++ s.queuedOperations := by
    simp [Outline.places, State.outline, operationsOf, queued]
  have places : (concludedIn s.history ++ s.queuedOperations).Perm (begunIn s.history) :=
    whole ▸ h.places
  have distinct := h.distinct
  rw [whole, List.map_append] at distinct
  obtain ⟨-, -, apart⟩ := List.nodup_append.mp distinct
  constructor
  · exact numbered
  · exact h.once
  · exact fun x member => places.mem_iff.mp (List.mem_append_left _ member)
  · intro n c
    rw [← places.mem_iff, List.mem_append]
    constructor
    · rintro ⟨isConcluded | isQueued, isPending⟩
      · exact absurd (List.mem_map_of_mem isConcluded) isPending
      · exact isQueued
    · intro isQueued
      have among : n ∈ s.queuedOperations.map Prod.fst := List.mem_map_of_mem isQueued
      exact ⟨.inr isQueued, fun isConcluded => apart n isConcluded n among rfl⟩
  · rw [← List.length_append, places.length_eq]
  · intro bounded
    obtain ⟨submitted, rejected, sum, isSubmitted, isRejected⟩ := h.counted
    simp only [State.outline] at sum isSubmitted isRejected
    have length : (begunIn s.history).length = s.operations := by
      rw [← List.length_map (f := Prod.fst), numbered, List.length_range]
    rw [length] at bounded ⊢
    rw [isSubmitted, isRejected]
    omega
  · exact carried

/-! ### Starting operations -/

section
variable {depth : Nat} {s t : State}

theorem handOver_grows (service : Service) (body : Option AnyRequest) (receiver : Receiver) :
    Grows (handOver service body receiver) := by
  refine .bind (.of_silent .of_get) fun s => ?_
  rcases submitTo s.transport service body receiver with ⟨r, transport⟩
  have moved : Grows (modify fun s : State => { s with transport := transport } : Run Unit) := by
    intro s x t run
    cases run
    exact List.prefix_rfl
  cases r with
  | ok id => exact .bind moved fun _ => .bind (.of_note _) fun _ => .of_pure _
  | error e => exact .bind moved fun _ => .bind (.of_note _) fun _ => .of_pure _

/-- A submission begins an operation for its completion, and that stays on record. -/
theorem submit_begins {k : Call} {c : Completion} {x : Unit}
    (run : submit (perform depth) k c s = some (x, t)) :
    s.history ++ [.began s.operations c] <+: t.history := by
  have obliging : Obliging (fun _ _ => True) (perform depth) :=
    takeStep_follows (perform_follows depth)
  obtain ⟨n, u, begun, run⟩ := bind_some run
  have same : u.outline [] [] = _ := (outline_newOperation begun).2
  have history : u.history = s.history ++ [.began s.operations c] := congrArg Outline.history same
  rw [← history]
  refine Grows.bind (.of_silent silent_timeOfDay) (fun now => ?_) u x t run
  refine .bind (handOver_grows _ _ _) fun r => ?_
  cases r with
  | ok id => exact .bind (.of_count _) fun _ => .of_note _
  | error e =>
    refine .bind (.of_count _) fun _ => .bind (.of_note _) fun _ => ?_
    cases e.2 with
    | true =>
      have drops : Follows (fun _ _ => True) [] [] (k.adapter n c).misdirect := misdirect_follows _
      exact drops.grows
    | false =>
      have concludes : Follows (fun _ _ => True) [] [(n, c)]
        ((k.adapter n c).conclude (perform depth) e.1 k.fallback) :=
        conclude_follows _ obliging _ _
      exact concludes.grows

theorem dispatch_begins {k : Call} {token : Token} {answer : Answer} {passes : Nat}
    (atOnce : ∀ name, token ≠ .deferred name)
    (run : dispatch passes (perform depth) token (.call k) s = some (answer, t)) :
    s.history ++ [.began s.operations (token.completion s.cells.size)] <+: t.history := by
  have obliging : Obliging (fun _ _ => True) (perform depth) :=
    takeStep_follows (perform_follows depth)
  cases token with
  | sync =>
    obtain ⟨cell, u, made, run⟩ := bind_some run
    cases made
    obtain ⟨_, v, submitted, run⟩ := bind_some run
    obtain ⟨outcome, w, waited, run⟩ := bind_some run
    obtain ⟨-, rfl⟩ := pure_some run
    have waits : Follows (fun _ _ => True) [] [] (wait passes (perform depth) s.cells.size) :=
      wait_follows obliging trivial trivial passes _
    exact (submit_begins submitted).trans (waits.grows v outcome w waited)
  | future name =>
    obtain ⟨cell, u, made, run⟩ := bind_some run
    cases made
    obtain ⟨_, v, submitted, run⟩ := bind_some run
    have begins := submit_begins submitted
    cases run
    exact begins
  | deferred name => exact absurd rfl (atOnce name)
  | detached | handler _ =>
    obtain ⟨_, u, submitted, run⟩ := bind_some run
    cases run
    exact submit_begins submitted

/-- Whatever the token, starting an operation at once begins it for the token's completion. -/
theorem starts_begins {step : Step} {k : Call} {token : Token} {answer : Answer}
    (starts : step.Starts s k token) (atOnce : ∀ name, token ≠ .deferred name)
    (run : perform depth step s = some (answer, t)) :
    s.history ++ [.began s.operations (token.completion s.cells.size)] <+: t.history := by
  cases depth with
  | zero => cases run
  | succ depth =>
    cases starts with
    | call k token => exact dispatch_begins atOnce run
    | @launch name k token found =>
      obtain ⟨_, u, got, run⟩ := bind_some run
      cases got
      rw [found] at run
      obtain ⟨_, v, removed, run⟩ := bind_some run
      cases removed
      exact dispatch_begins (s := { s with deferred := without name s.deferred }) atOnce run

end

/-! ### Whole runs -/

/-- However handlers nest, every operation over the loopback transport is concluded at most once,
and between steps those that are not concluded have their request in the queue. -/
theorem every_operation_concluded_once {depth maxPending : Nat} {config : Config} {clocks : Clocks}
    {space : AddressSpace} {steps : List Step} {reports : List Report}
    (run : play depth (.start config (.loopback { space, maxPending }) clocks) steps =
      some reports) :
    (∀ report ∈ reports, report.after.Settled) ∧
      (∀ s step k token answer t, Step.Starts s step k token → (∀ name, token ≠ .deferred name) →
        perform depth step s = some (answer, t) →
        s.history ++ [.began s.operations (token.completion s.cells.size)] <+: t.history) ∧
      (∀ act (ρ : Type) (a : Adapter ρ) status payload s t,
        a.conclude act status payload s = some ((), t) → Concludes act a status payload s t) ∧
      ∀ act on c status payload s outcome t,
        Completion.invoke act c on status payload s = some (outcome, t) ↔
          Invokes act on status payload s c outcome t := by
  refine ⟨?_, fun _ _ _ _ _ _ starts atOnce => starts_begins starts atOnce,
    fun _ _ _ _ _ _ _ => conclude_concludes, fun _ _ _ _ _ _ _ _ => invoke_iff⟩
  intro report member
  have free : ∀ step ∈ steps, step.Granted (fun _ _ => True) [] :=
    fun step _ power _ => trivial
  obtain ⟨-, os, history, carries, moves⟩ := playFrom_leads free run report member
  have initial := Balanced.start config clocks (l := { space, maxPending }) rfl
  obtain ⟨l, balanced⟩ := initial.run (moves fun _ _ _ _ _ => trivial)
  have created : Carries [.clientCreated config.endpoint config.applicationName] :=
    .of_apart (by simp [Occurrence.concluded?])
  have whole : report.after.history =
      [.clientCreated config.endpoint config.applicationName] ++ os := history
  exact balanced.settled (whole ▸ created.append carries)

/-- A handler that calls synchronously and panics, a handler that is told of a rejected submission,
and a request that a closed transport abandons. -/
theorem nested_and_abandoned_concluded_once :
    let called (os : List Occurrence) := os.filterMap fun
      | .called name status _ => some (name, status)
      | _ => none
    let seen (report : Report) :=
      ((begunIn report.occurrences).map Prod.fst, (concludedIn report.occurrences).map Prod.fst,
        called report.occurrences)
    ∃ reports,
      play 5
        (.start {} (.loopback { space := .empty, maxPending := 0 }) ⟨fun _ => .epoch, id, 0, 0⟩)
        [.call (.readValue .null) (.handler (.mk "outer" false fun _ _ =>
            ([.call (.readValue .null) .sync], .panic .other))),
          .run, .failNextSubmit .badTimeout,
          .call (.readValue .null) (.handler (.mk "refused" true fun _ _ => ([], .done))),
          .call (.deleteNode .null true) (.future "late"), .close, .run] = some reports ∧
      reports.map seen =
        [([0], [], []), ([1], [0, 1], [("outer", .badNodeIdUnknown)]), ([], [], []),
          ([2], [2], [("refused", .badTimeout)]), ([3], [], []), ([], [], []), ([], [3], [])] ∧
      ∀ report ∈ reports, report.after.Settled := by
  intro called seen
  refine ends_well
    (Q := fun reports => reports.map seen =
        [([0], [], []), ([1], [0, 1], [("outer", .badNodeIdUnknown)]), ([], [], []),
          ([2], [2], [("refused", .badTimeout)]), ([3], [], []), ([], [], []), ([], [3], [])])
    (by decide +kernel) fun _ run places => ?_
  exact ⟨places, (every_operation_concluded_once run).1⟩

end OpcUa.Client
