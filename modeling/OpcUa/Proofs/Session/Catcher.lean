import Mathlib.Data.List.DropRight
import OpcUa.Proofs.Session.Callback
import OpcUa.Proofs.Session.Loopback
import OpcUa.Proofs.Session.Steps

/-!
What becomes of failures that arrive at a catcher. The first one is kept until it is taken out, and
every other one that arrives meanwhile is dropped with a warning; nothing else enters a catcher, and
nothing leaves it otherwise.
-/

namespace OpcUa.Client

open Run

namespace Occurrence

def arrivalAt? (desk : Desk) (o : Occurrence) : Option Failure :=
  match o.arrival? with
  | some (other, e) => if other = desk then some e else none
  | none => none

def isRethrown (desk : Desk) : Occurrence → Bool
  | failureRethrown other _ => other = desk
  | _ => false

def isDropped (desk : Desk) : Occurrence → Bool
  | failureDropped other _ _ => other = desk
  | _ => false

/-- The failure that enters one catcher or is turned away there. -/
def judged? (desk : Desk) : Occurrence → Option Failure
  | failureStored other e => if other = desk then some e else none
  | failureDropped other _ e => if other = desk then some e else none
  | _ => none

end Occurrence

/-- The first failure that arrived at a catcher since one was last taken out of it. -/
def pendingIn (desk : Desk) (os : List Occurrence) : Option Failure :=
  (os.rtakeWhile fun o => !o.isRethrown desk).findSome? (Occurrence.arrivalAt? desk)

/-- The histories that leave a catcher with what it holds. -/
inductive Kept (desk : Desk) : List Occurrence → Option Failure → Prop
  | empty : Kept desk [] none
  | other {os : List Occurrence} {held : Option Failure} {o : Occurrence}
      (before : Kept desk os held) (apart : o.desk? ≠ some desk) : Kept desk (os ++ [o]) held
  | arrive {os : List Occurrence} {held : Option Failure} {o : Occurrence} {e : Failure}
      (before : Kept desk os held) (arrives : o.arrival? = some (desk, e)) :
      Kept desk (os ++ [o, .verdict desk held e]) (some (held.getD e))
  | rethrow {os : List Occurrence} {e : Failure} (before : Kept desk os (some e)) :
      Kept desk (os ++ [.failureRethrown desk e]) none

/-! ### Single occurrences -/

section
variable {desk : Desk} {o : Occurrence}

theorem desk?_of_arrival {e : Failure} (h : o.arrival? = some (desk, e)) : o.desk? = some desk := by
  rcases Occurrence.arrival?_eq_some h with rfl | ⟨p, rfl, rfl⟩ | rfl <;> rfl

theorem desk?_verdict (held : Option Failure) (e : Failure) :
    (Occurrence.verdict desk held e).desk? = some desk := by
  cases held <;> rfl

theorem arrival?_verdict (held : Option Failure) (e : Failure) :
    (Occurrence.verdict desk held e).arrival? = none := by
  cases held <;> rfl

/-- What tells of another catcher is neither an arrival at this one, nor is anything dropped or
taken out there. -/
theorem apart_cases (h : o.desk? ≠ some desk) :
    o.arrivalAt? desk = none ∧ o.isRethrown desk = false ∧ o.isDropped desk = false ∧
      o.judged? desk = none := by
  constructor
  · unfold Occurrence.arrivalAt?
    split
    next other e arrives =>
      refine if_neg ?_
      rintro rfl
      exact h (desk?_of_arrival arrives)
    next => rfl
  · cases o <;>
      simp_all [Occurrence.desk?, Occurrence.isRethrown, Occurrence.isDropped, Occurrence.judged?]

theorem arrival_cases {e : Failure} (h : o.arrival? = some (desk, e)) :
    o.arrivalAt? desk = some e ∧ o.isRethrown desk = false ∧ o.isDropped desk = false ∧
      o.judged? desk = none := by
  refine ⟨by simp [Occurrence.arrivalAt?, h], ?_⟩
  rcases Occurrence.arrival?_eq_some h with rfl | ⟨p, rfl, rfl⟩ | rfl <;>
    simp [Occurrence.isRethrown, Occurrence.isDropped, Occurrence.judged?]

theorem verdict_cases (desk : Desk) (held : Option Failure) (e : Failure) :
    (Occurrence.verdict desk held e).arrivalAt? desk = none ∧
      (Occurrence.verdict desk held e).isRethrown desk = false ∧
      (Occurrence.verdict desk held e).isDropped desk = held.isSome ∧
      (Occurrence.verdict desk held e).judged? desk = some e := by
  cases held <;>
    simp [Occurrence.verdict, Occurrence.arrivalAt?, Occurrence.arrival?, Occurrence.isRethrown,
      Occurrence.isDropped, Occurrence.judged?]

theorem rethrown_cases (desk : Desk) (e : Failure) :
    (Occurrence.failureRethrown desk e).arrivalAt? desk = none ∧
      (Occurrence.failureRethrown desk e).isRethrown desk = true ∧
      (Occurrence.failureRethrown desk e).isDropped desk = false ∧
      (Occurrence.failureRethrown desk e).judged? desk = none := by
  simp [Occurrence.arrivalAt?, Occurrence.arrival?, Occurrence.isRethrown, Occurrence.isDropped,
    Occurrence.judged?]

end

/-! ### What is pending -/

theorem pendingIn_append (desk : Desk) (os : List Occurrence) (o : Occurrence) :
    pendingIn desk (os ++ [o]) =
      if o.isRethrown desk then none else (pendingIn desk os).or (o.arrivalAt? desk) := by
  unfold pendingIn
  rw [List.rtakeWhile_concat]
  cases isTaken : o.isRethrown desk with
  | true => simp
  | false => simp [List.findSome?_append]

namespace Kept

variable {desk : Desk} {os : List Occurrence} {held : Option Failure}

theorem pending (h : Kept desk os held) : pendingIn desk os = held := by
  induction h with
  | empty => rfl
  | other before apart ih =>
    obtain ⟨noArrival, notTaken, -, -⟩ := apart_cases apart
    rw [pendingIn_append, noArrival, notTaken, ih]
    simp
  | @arrive os held o e before arrives ih =>
    obtain ⟨arrival, notTaken, -, -⟩ := arrival_cases arrives
    obtain ⟨noArrival, notTaken', -, -⟩ := verdict_cases desk held e
    have split : os ++ [o, .verdict desk held e] = os ++ [o] ++ [.verdict desk held e] := by simp
    rw [split, pendingIn_append, noArrival, notTaken', pendingIn_append, arrival, notTaken, ih]
    cases held <;> simp
  | @rethrow os e before ih =>
    rw [pendingIn_append, (rethrown_cases desk e).2.1]
    simp

/-- Every failure that arrived was taken out, or was dropped, or is held. -/
theorem total (h : Kept desk os held) :
    os.countP (fun o => (o.arrivalAt? desk).isSome) =
      os.countP (Occurrence.isRethrown desk) + os.countP (Occurrence.isDropped desk) +
        held.toList.length := by
  induction h with
  | empty => rfl
  | other before apart ih =>
    obtain ⟨noArrival, notTaken, notDropped, -⟩ := apart_cases apart
    simp only [List.countP_append, List.countP_singleton, noArrival, notTaken, notDropped, ih]
    simp
  | @arrive os held o e before arrives ih =>
    obtain ⟨arrival, notTaken, notDropped, -⟩ := arrival_cases arrives
    obtain ⟨noArrival, notTaken', isDropped, -⟩ := verdict_cases desk held e
    simp only [List.countP_append, List.countP_cons, List.countP_nil, arrival, notTaken, notDropped,
      noArrival, notTaken', isDropped, ih]
    cases held <;> simp
    omega
  | @rethrow os e before ih =>
    obtain ⟨noArrival, isTaken, notDropped, -⟩ := rethrown_cases desk e
    simp only [List.countP_append, List.countP_singleton, noArrival, isTaken, notDropped, ih]
    simp
    omega

end Kept

/-! ### What stands next to each other -/

/-- What is told of a catcher has its reason: a failure that arrives meets its verdict at once, a
verdict is on a failure that has just arrived, and what is taken out is what was pending. -/
def Justified (desk : Desk) (before : List Occurrence) (o : Occurrence) (after : List Occurrence) :
    Prop :=
  (∃ e rest, o.arrival? = some (desk, e) ∧
    after = .verdict desk (pendingIn desk before) e :: rest) ∨
  (∃ earlier cause e, before = earlier ++ [cause] ∧ cause.arrival? = some (desk, e) ∧
    o = .verdict desk (pendingIn desk earlier) e) ∨
  (∃ e, o = .failureRethrown desk e ∧ pendingIn desk before = some e)

theorem Justified.later {desk : Desk} {before after : List Occurrence} {o : Occurrence}
    (h : Justified desk before o after) (more : List Occurrence) :
    Justified desk before o (after ++ more) := by
  rcases h with ⟨e, rest, arrives, rfl⟩ | isVerdict | isTaken
  · exact .inl ⟨e, rest ++ more, arrives, rfl⟩
  · exact .inr (.inl isVerdict)
  · exact .inr (.inr isTaken)

/-- Where a list with one more element is split, the split is at this element or before it. -/
theorem split_snoc {os before after : List Occurrence} {last o : Occurrence}
    (h : os ++ [last] = before ++ o :: after) :
    (os = before ∧ last = o ∧ after = []) ∨
      ∃ rest, after = rest ++ [last] ∧ os = before ++ o :: rest := by
  rcases List.eq_nil_or_concat after with rfl | ⟨rest, final, rfl⟩
  · obtain ⟨same, ends⟩ := List.append_inj' h rfl
    exact .inl ⟨same, List.singleton_inj.mp ends, rfl⟩
  · have shifted : os ++ [last] = (before ++ o :: rest) ++ [final] := by simpa using h
    obtain ⟨same, ends⟩ := List.append_inj' shifted rfl
    rw [List.singleton_inj.mp ends]
    exact .inr ⟨rest, List.concat_eq_append, same⟩

theorem Kept.justified {desk : Desk} {os before after : List Occurrence} {held : Option Failure}
    {o : Occurrence} (h : Kept desk os held) (place : os = before ++ o :: after)
    (own : o.desk? = some desk) : Justified desk before o after := by
  induction h generalizing before o after with
  | empty => simp at place
  | other _ apart ih =>
    rcases split_snoc place with ⟨-, rfl, -⟩ | ⟨rest, rfl, inner⟩
    · exact absurd own apart
    · exact (ih inner own).later _
  | @arrive os held cause e earlier arrives ih =>
    have shifted : os ++ [cause] ++ [.verdict desk held e] = before ++ o :: after := by
        simpa using place
    rcases split_snoc shifted with ⟨rfl, rfl, -⟩ | ⟨rest, rfl, middle⟩
    · refine .inr (.inl ⟨os, cause, e, rfl, arrives, ?_⟩)
      rw [earlier.pending]
    · rcases split_snoc middle with ⟨rfl, rfl, rfl⟩ | ⟨rest, rfl, inner⟩
      · refine .inl ⟨e, [], arrives, ?_⟩
        rw [earlier.pending]
        rfl
      · exact ((ih inner own).later _).later _
  | @rethrow os e earlier ih =>
    rcases split_snoc place with ⟨rfl, rfl, -⟩ | ⟨rest, rfl, inner⟩
    · exact .inr (.inr ⟨e, rfl, earlier.pending⟩)
    · exact (ih inner own).later _

/-- How the failures that arrive at a catcher are accounted for, in a history that leaves it with
what it holds. -/
structure Accounted (desk : Desk) (os : List Occurrence) (held : Option Failure) : Prop where
  /-- The catcher holds the first failure that arrived since one was last taken out. -/
  pending : held = pendingIn desk os
  /-- So is what is taken out. -/
  taken : ∀ before e after, os = before ++ .failureRethrown desk e :: after →
    pendingIn desk before = some e
  /-- A failure that arrives is stored in an empty catcher, and dropped by any other. -/
  arrived : ∀ before o e after, os = before ++ o :: after → o.arrival? = some (desk, e) →
    ∃ rest, after = .verdict desk (pendingIn desk before) e :: rest
  /-- Nothing but a failure that has just arrived is stored or dropped. -/
  entered : ∀ before o e after, os = before ++ o :: after → o.judged? desk = some e →
    ∃ earlier cause, before = earlier ++ [cause] ∧ cause.arrival? = some (desk, e)
  /-- Every failure that arrived was taken out, or was dropped, or is held. -/
  total : os.countP (fun o => (o.arrivalAt? desk).isSome) =
    os.countP (Occurrence.isRethrown desk) + os.countP (Occurrence.isDropped desk) +
      held.toList.length

theorem desk?_of_judged {desk : Desk} {o : Occurrence} {e : Failure}
    (h : o.judged? desk = some e) : o.desk? = some desk := by
  by_contra apart
  simp [(apart_cases apart).2.2.2] at h

theorem Kept.accounted {desk : Desk} {os : List Occurrence} {held : Option Failure}
    (h : Kept desk os held) : Accounted desk os held where
  pending := h.pending.symm
  taken := by
    intro before e after place
    rcases h.justified place rfl with
      ⟨_, _, arrives, -⟩ | ⟨earlier, _, e', -, -, same⟩ | ⟨e', same, first⟩
    · cases arrives
    · have verdict := (verdict_cases desk (pendingIn desk earlier) e').2.2.2
      rw [← same, (rethrown_cases desk e).2.2.2] at verdict
      cases verdict
    · cases same
      exact first
  arrived := by
    intro before o e after place arrives
    rcases h.justified place (desk?_of_arrival arrives) with
      ⟨e', rest, arrives', found⟩ | ⟨_, _, e', -, -, rfl⟩ | ⟨e', rfl, -⟩
    · rw [arrives] at arrives'
      cases arrives'
      exact ⟨rest, found⟩
    · rw [arrival?_verdict] at arrives
      cases arrives
    · cases arrives
  entered := by
    intro before o e after place judged
    rcases h.justified place (desk?_of_judged judged) with
      ⟨e', rest, arrives, -⟩ | ⟨earlier, cause, e', found, arrives, rfl⟩ | ⟨e', rfl, -⟩
    · rw [(arrival_cases arrives).2.2.2] at judged
      cases judged
    · rw [(verdict_cases desk _ e').2.2.2] at judged
      cases judged
      exact ⟨earlier, cause, found, arrives⟩
    · rw [(rethrown_cases desk e').2.2.2] at judged
      cases judged
  total := h.total

/-! ### Runs -/

theorem Kept.others {desk : Desk} {os more : List Occurrence} {held : Option Failure}
    (h : Kept desk os held) (apart : ∀ o ∈ more, o.desk? ≠ some desk) :
    Kept desk (os ++ more) held := by
  induction more generalizing os with
  | nil => simpa using h
  | cons o more ih =>
    have next : Kept desk (os ++ [o]) held := h.other (apart o List.mem_cons_self)
    have rest := ih next fun o member => apart o (List.mem_cons_of_mem _ member)
    simpa using rest

/-- What a move can do at one catcher: nothing, have a failure arrive, or take one out. -/
theorem Move.at_desk {may : Power → List Pass → Prop} {p q : Outline} (m : Move may p q)
    (desk : Desk) :
    (∃ more, q.history = p.history ++ more ∧ (∀ o ∈ more, o.desk? ≠ some desk) ∧
      q.held desk = p.held desk) ∨
    (∃ o e, o.arrival? = some (desk, e) ∧
      q.history = p.history ++ [o, .verdict desk (p.held desk) e] ∧
      q.held desk = some ((p.held desk).getD e)) ∨
    (∃ e, p.held desk = some e ∧ (desk = .client → may .rethrow p.passes) ∧
      q.history = p.history ++ [.failureRethrown desk e] ∧ q.held desk = none) := by
  cases m with
  | plain isPlain => exact .inl ⟨_, rfl, by simp [Occurrence.desk?_of_isPlain isPlain], rfl⟩
  | accept | refuse | acceptOther | refuseOther | beginPass | abandon | conclude | finish
  | report =>
    exact .inl ⟨_, rfl, by simp [Occurrence.desk?], rfl⟩
  | change => exact .inl ⟨[], by simp [Outline.move], by simp, rfl⟩
  | serve now loopback passes answered =>
    refine .inl ⟨_, rfl, fun o member => ?_, rfl⟩
    rcases List.mem_append.mp member with noted | told
    · simp [Occurrence.desk?_of_isPlain (Loopback.answer_plain answered o noted)]
    · rcases List.mem_pair.mp told with rfl | rfl <;> simp [Occurrence.desk?]
  | @endPass l isConnected =>
    exact .inl ⟨_, rfl, by cases isConnected <;> simp [Occurrence.desk?], rfl⟩
  | @fail o other e arrives =>
    by_cases same : other = desk
    · subst same
      exact .inr (.inl ⟨o, e, arrives, rfl, Function.update_self ..⟩)
    · have apart : (some other : Option Desk) ≠ some desk := by simpa using same
      refine .inl ⟨_, rfl, fun o member => ?_, Function.update_of_ne (Ne.symm same) ..⟩
      rcases List.mem_pair.mp member with rfl | rfl
      · rwa [desk?_of_arrival arrives]
      · rwa [desk?_verdict]
  | @rethrow other e holds allowed =>
    by_cases same : other = desk
    · subst same
      exact .inr (.inr ⟨e, holds, allowed, rfl, Function.update_self ..⟩)
    · exact .inl ⟨_, rfl, by simpa [Occurrence.desk?] using same,
        Function.update_of_ne (Ne.symm same) ..⟩
  | steer loopback steering =>
    exact .inl ⟨_, rfl, by cases steering <;> simp [Occurrence.desk?], rfl⟩
  | elsewhere prepared apart => exact .inl ⟨_, rfl, fun o member => by simp [apart o member], rfl⟩

theorem Kept.move {may : Power → List Pass → Prop} {desk : Desk} {p q : Outline}
    (h : Kept desk p.history (p.held desk)) (m : Move may p q) :
    Kept desk q.history (q.held desk) := by
  rcases m.at_desk desk with
    ⟨more, history, apart, held⟩ | ⟨o, e, arrives, history, held⟩ | ⟨e, holds, -, history, held⟩
  · rw [history, held]
    exact h.others apart
  · rw [history, held]
    exact h.arrive arrives
  · rw [holds] at h
    rw [history, held]
    exact h.rethrow

theorem Kept.run {may : Power → List Pass → Prop} {desk : Desk} {p q : Outline}
    (h : Kept desk p.history (p.held desk)) (moves : Relation.ReflTransGen (Move may) p q) :
    Kept desk q.history (q.held desk) := by
  induction moves with
  | refl => exact h
  | tail _ last ih => exact ih.move last

theorem Kept.start (desk : Desk) (config : Config) (transport : Transport) (clocks : Clocks) :
    Kept desk (State.start config transport clocks).history
      ((State.start config transport clocks).held desk) := by
  have created : Kept desk [.clientCreated config.endpoint config.applicationName] none :=
    Kept.empty.other (by simp [Occurrence.desk?])
  cases desk <;> exact created

/-! ### The log -/

/-- The warning that a failure is dropped because another one is pending. -/
def dropWarning (pending dropped : Failure) : LogLine :=
  ⟨.warn, "deferred failure already pending, dropping new failure",
    [("pending", pending.message), ("dropped", dropped.message)]⟩

def isDropWarning (line : LogLine) : Bool := line.fields.any (·.1 = "dropped")

def Occurrence.dropWarnings : Occurrence → List LogLine
  | failureDropped _ pending dropped => [dropWarning pending dropped]
  | _ => []

theorem logLine?_dropWarnings (o : Occurrence) :
    o.logLine?.toList.filter isDropWarning = o.dropWarnings := by
  cases o with
  | passServed n =>
    unfold Occurrence.logLine?
    by_cases isEmpty : n = 0 <;>
      simp [isEmpty, isDropWarning, Occurrence.dropWarnings]
  | _ =>
    simp [Occurrence.logLine?, isDropWarning, Occurrence.dropWarnings, dropWarning, Failure.logLine]

/-- Every failure that is dropped is warned of once, and nothing else is warned of in that way. -/
theorem log_dropWarnings (os : List Occurrence) :
    (os.filterMap Occurrence.logLine?).filter isDropWarning =
      os.flatMap Occurrence.dropWarnings := by
  induction os with
  | nil => rfl
  | cons o os ih =>
    rw [List.flatMap_cons, ← ih, ← logLine?_dropWarnings o]
    cases line : o.logLine? <;> simp [line, List.filter_cons]
    split <;> rfl

/-! ### What is handed in -/

/-- The second state comes after the first by a failure that was handed to a catcher, which stored
or dropped it at once. -/
def HandsIn (desk : Desk) (e : Failure) (s t : State) : Prop :=
  t.history = s.history ++ [.handedIn desk e, .verdict desk (s.held desk) e]

section
variable (act : Act) (passes : Nat) (desk : Desk) (e : Failure) (s : State)

theorem handedIn_stores :
    ∃ t, store desk e { s with journal := s.journal.push (.handedIn desk e) } = some ((), t) ∧
      HandsIn desk e s t := by
  let noted : State := { s with journal := s.journal.push (.handedIn desk e) }
  obtain ⟨t, stored, -⟩ := store_settles desk e noted
  have notes : note (.handedIn desk e) s = some ((), noted) := rfl
  have same : t.outline [] [] = _ := outline_arrive notes stored
  exact ⟨t, stored, congrArg Outline.history same⟩

theorem store_hands_in :
    ∃ t, perform1 passes act (.catcher desk (.store e)) s = some (.nothing, t) ∧
      HandsIn desk e s t := by
  obtain ⟨t, stored, handed⟩ := handedIn_stores desk e s
  exact ⟨t, (bind_eq (y := ()) rfl).trans (bind_eq stored), handed⟩

/-- Code that fails inside a catcher hands in what it fails with. -/
theorem catching_hands_in {e : Failure} {ending : Ending} (fails : Ends ending (.error e))
    (value : Int64) :
    ∃ t, perform1 passes act (.catcher desk (.catching ending value)) s = some (.kept none, t) ∧
      HandsIn desk e s t := by
  obtain ⟨t, stored, handed⟩ := handedIn_stores desk e s
  cases fails with
  | error e => exact ⟨t, bind_eq ((bind_eq rfl).trans (bind_eq stored)), handed⟩
  | panic p => exact ⟨t, bind_eq ((bind_eq rfl).trans (bind_eq stored)), handed⟩

end

/-! ### What is handed on -/

/-- What a catcher held is taken out of it, and its history tells so. -/
structure HandsOn (desk : Desk) (s t : State) : Prop where
  held : t.held = Function.update s.held desk none
  history : t.history = s.history ++ (s.held desk).toList.map (.failureRethrown desk)

/-- Taking a failure out of a catcher gives the one that it holds. -/
theorem rethrow_hands_on (desk : Desk) (s : State) :
    ∃ t, rethrow desk s = some (s.held desk, t) ∧ HandsOn desk s t := by
  obtain ⟨⟨found, t⟩, taken⟩ : ∃ r, rethrow desk s = some r := by
    have reached : rethrow desk s = _ := bind_eq (caught_run desk s)
    rw [reached]
    cases s.held desk <;> exact ⟨_, rfl⟩
  rcases rethrow_cases taken with ⟨rfl, empty, rfl⟩ | ⟨e, rfl, holds, after⟩
  · refine ⟨s, by rw [empty]; exact taken, ?_, by simp [empty]⟩
    rw [← empty, Function.update_eq_self]
  · have same : t.outline [] [] = _ := after [] []
    refine ⟨t, by rw [holds]; exact taken, congrArg Outline.held same, ?_⟩
    rw [holds]
    exact congrArg Outline.history same

theorem rethrow_step (act : Act) (passes : Nat) (desk : Desk) (s : State) :
    ∃ t, perform1 passes act (.catcher desk .rethrow) s =
      some (.outcome ((s.held desk).elim (.ok .nothing) .error), t) ∧ HandsOn desk s t := by
  obtain ⟨t, taken, hands⟩ := rethrow_hands_on desk s
  refine ⟨t, (bind_eq taken).trans ?_, hands⟩
  cases s.held desk <;> rfl

/-- What a pass of the client comes to: it fails with its transport, or else it hands out what the
catcher holds after the transport's pass. -/
inductive Iterates (act : Act) (s t : State) : Except Failure Nat → Prop
  | failed {e : Failure} (pumped : pump act s = some (.error e, t)) : Iterates act s t (.error e)
  | quiet {n : Nat} {u : State} (pumped : pump act s = some (.ok n, u))
      (empty : u.held .client = none) (held : t.held = u.held)
      (history : t.history = u.history ++ [.passFinished n]) : Iterates act s t (.ok n)
  | surfaced {n : Nat} {e : Failure} {u : State} (pumped : pump act s = some (.ok n, u))
      (holds : u.held .client = some e) (taken : t.held = Function.update u.held .client none)
      (history : t.history = u.history ++
        [.passFinished n, .failureRethrown .client e, .reported "run_iterate" e]) :
      Iterates act s t (.error e)

theorem runIterate_cases {act : Act} {s t : State} {r : Except Failure Nat}
    (run : runIterate act s = some (r, t)) : Iterates act s t r := by
  obtain ⟨result, u, pumped, run⟩ := bind_some run
  cases result with
  | error e =>
    obtain ⟨rfl, rfl⟩ := pure_some run
    exact .failed pumped
  | ok n =>
    obtain ⟨_, v, counted, run⟩ := bind_some run
    obtain ⟨_, w, finished, run⟩ := bind_some run
    obtain ⟨found, x, rethrown, run⟩ := bind_some run
    have outline : w.outline [] [] = _ := outline_note finished
    rw [outline_count counted] at outline
    have held : w.held = u.held := congrArg Outline.held outline
    have history : w.history = u.history ++ [.passFinished n] := congrArg Outline.history outline
    rcases rethrow_cases rethrown with ⟨rfl, empty, rfl⟩ | ⟨e, rfl, holds, after⟩
    · obtain ⟨rfl, rfl⟩ := pure_some run
      exact .quiet pumped (held ▸ empty) held history
    · obtain ⟨_, y, counted', run⟩ := bind_some run
      obtain ⟨_, z, reported, run⟩ := bind_some run
      obtain ⟨rfl, rfl⟩ := pure_some run
      have final : z.outline [] [] = _ := outline_note reported
      rw [outline_count counted', after] at final
      have held' : z.held = Function.update w.held .client none := congrArg Outline.held final
      have history' : z.history = w.history ++ [.failureRethrown .client e] ++
          [.reported "run_iterate" e] := congrArg Outline.history final
      refine .surfaced pumped (held ▸ holds) (by rw [held', held]) ?_
      rw [history', history]
      simp

/-! ### Between steps -/

/-- A session in which no failure has vanished. -/
structure State.KeepsFailures (s : State) : Prop where
  accounted : ∀ desk, Accounted desk s.history (s.held desk)
  warned : (s.history.filterMap Occurrence.logLine?).filter isDropWarning =
    s.history.flatMap Occurrence.dropWarnings

/-- Whatever handlers do, what they fail with and what is handed in is taken out of its catcher, or
dropped with a warning, or held; what is taken out is the first that arrived since it was empty. -/
theorem no_failure_vanishes {depth : Nat} {config : Config} {transport : Transport}
    {clocks : Clocks} {steps : List Step} {reports : List Report}
    (run : play depth (.start config transport clocks) steps = some reports) :
    (∀ report ∈ reports, report.after.KeepsFailures) ∧
      (∀ act (ρ : Type) (a : Adapter ρ) h status payload s t, a.completion = .handler h →
        a.conclude act status payload s = some ((), t) →
        ∃ called taken,
          note (.called h.name status (if h.statusOnly then none else some payload))
            (a.occasion.noted (.handler h) status payload s) = some ((), called) ∧
          runSteps act h.name (h.react status payload).1 called = some ((), taken) ∧
          ∃ os, t.history = taken.history ++ os ∧
            EndsInside a.desk (taken.held a.desk) (h.react status payload).2 os) ∧
      (∀ act passes desk e s,
        (∃ t, perform1 passes act (.catcher desk (.store e)) s = some (.nothing, t) ∧
          HandsIn desk e s t) ∧
        ∀ ending value, Ends ending (.error e) →
          ∃ t, perform1 passes act (.catcher desk (.catching ending value)) s =
            some (.kept none, t) ∧ HandsIn desk e s t) ∧
      (∀ act passes desk s,
        (∃ t, rethrow desk s = some (s.held desk, t) ∧ HandsOn desk s t) ∧
        ∃ t, perform1 passes act (.catcher desk .rethrow) s =
          some (.outcome ((s.held desk).elim (.ok .nothing) .error), t) ∧ HandsOn desk s t) ∧
      ∀ act s r t, runIterate act s = some (r, t) → Iterates act s t r := by
  refine ⟨?_, fun _ _ a _ _ _ _ _ => conclude_inside a, fun act passes desk e s => ?_,
    fun act passes desk s => ⟨rethrow_hands_on desk s, rethrow_step act passes desk s⟩,
    fun _ _ _ _ => runIterate_cases⟩
  · intro report member
    have free : ∀ step ∈ steps, step.Granted (fun _ _ => True) [] :=
      fun step _ power _ => trivial
    obtain ⟨-, os, -, -, moves⟩ := playFrom_leads free run report member
    constructor
    · intro desk
      have initial := Kept.start desk config transport clocks
      exact (initial.run (moves fun _ _ _ _ _ => trivial)).accounted
    · exact log_dropWarnings _
  · exact ⟨store_hands_in act passes desk e s,
      fun _ value fails => catching_hands_in act passes desk s fails value⟩

/-- Two handlers that fail in one pass, the second after it handed in a failure itself, one that
fails on a rejection, and a failure that is handed in while that one is pending. -/
theorem failures_of_two_handlers_kept :
    let arrived (os : List Occurrence) := os.filterMap (Occurrence.arrivalAt? .client)
    let panicked : Failure := .panicked Panic.other.message
    ∃ reports,
      play 4
        (.start {} (.loopback { space := .empty, maxPending := 0 }) ⟨fun _ => .epoch, id, 0, 0⟩)
        [.call (.readValue .null) (.handler (.mk "first" false fun _ _ =>
            ([], .error (.user (.alarm 1))))),
          .call (.readValue .null) (.handler (.mk "second" true fun _ _ =>
            ([.catcher .client (.store .disconnected)], .panic .other))),
          .run, .failNextSubmit .badTimeout,
          .call (.readValue .null) (.handler (.mk "third" true fun _ _ => ([], .panic .other))),
          .catcher .client (.store .disconnected), .catcher .client .rethrow] = some reports ∧
      (reports.map fun report => (arrived report.occurrences, report.after.caught)) =
        [([], none), ([], none), ([.user (.alarm 1), .disconnected, panicked], none), ([], none),
          ([panicked], some panicked), ([.disconnected], some panicked), ([], none)] ∧
      ∀ report ∈ reports, report.after.KeepsFailures := by
  intro arrived panicked
  refine ends_well
    (Q := fun reports =>
      (reports.map fun report => (arrived report.occurrences, report.after.caught)) =
        [([], none), ([], none), ([.user (.alarm 1), .disconnected, panicked], none), ([], none),
          ([panicked], some panicked), ([.disconnected], some panicked), ([], none)])
    (by decide +kernel) fun _ run arrivals => ?_
  exact ⟨arrivals, (no_failure_vanishes run).1⟩

end OpcUa.Client
