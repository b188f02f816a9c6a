import Mathlib.Data.List.Basic
import OpcUa.Proofs.Session.Outline

/-!
Every run is a run of moves. `Leads` relates two outlines if the second comes after the first, every
conclusion on record between them is that of a completion that was invoked there, and, as long as
application code keeps to its powers, the second can be reached from the first by moves. `Follows`
says this of all runs of an action.
-/

namespace OpcUa.Client

open Run

/-- Application code keeps to the powers that may be used within every pass. -/
def Modest (may : Power → List Pass → Prop) (os : List Occurrence) : Prop :=
  ∀ step, .took step ∈ os → ∀ power ∈ step.needs, ∀ passes, may power passes

/-- Application code does not use certain powers. -/
def Spares (powers : List Power) (os : List Occurrence) : Prop :=
  ∀ step, .took step ∈ os → ∀ power ∈ step.needs, power ∉ powers

/-- Whether a step may be carried out within some passes. -/
def Step.Granted (may : Power → List Pass → Prop) (passes : List Pass) (step : Step) : Prop :=
  ∀ power ∈ step.needs, may power passes

/-! ### Invocations on record -/

/-- What happens while a handler takes its steps, one after another. -/
inductive TakenIn (name : String) : List Step → List Occurrence → Prop
  | nil : TakenIn name [] []
  | cons {step : Step} {rest : List Step} {inner later : List Occurrence} {answer : Answer}
      (next : TakenIn name rest later) :
      TakenIn name (step :: rest) (.took step :: (inner ++ .inside name answer :: later))

/-- What is on record after the conclusion of an operation: a handler is called with the status and
the payload, takes the steps that it chooses, and ends inside a catcher as it chooses. -/
inductive Carried (status : StatusCode) (payload : Payload) : Completion → List Occurrence → Prop
  | future {cell : Nat} {after : List Occurrence} : Carried status payload (.future cell) after
  | nobody {after : List Occurrence} : Carried status payload .nobody after
  | handler {h : Handler} {desk : Desk} {middle after : List Occurrence}
      (taken : TakenIn h.name (h.react status payload).1 middle) :
      Carried status payload (.handler h)
        (.called h.name status (if h.statusOnly then none else some payload) ::
          (middle ++ .ended (some desk) (h.react status payload).2 :: after))

/-- Every conclusion on record is that of a completion that was invoked there. -/
def Carries (os : List Occurrence) : Prop :=
  ∀ before n c status payload after, os = before ++ .concluded n c status payload :: after →
    Carried status payload c after

theorem Carried.later {status : StatusCode} {payload : Payload} {c : Completion}
    {after : List Occurrence} (h : Carried status payload c after) (more : List Occurrence) :
    Carried status payload c (after ++ more) := by
  cases h with
  | future => exact .future
  | nobody => exact .nobody
  | handler taken =>
    rw [List.cons_append, List.append_assoc, List.cons_append]
    exact .handler taken

namespace Carries

theorem of_apart {os : List Occurrence} (apart : ∀ o ∈ os, o.concluded? = none) : Carries os := by
  rintro before n c status payload after rfl
  have member : Occurrence.concluded n c status payload ∈
      before ++ .concluded n c status payload :: after := by simp
  cases apart _ member

theorem append {a b : List Occurrence} (ha : Carries a) (hb : Carries b) : Carries (a ++ b) := by
  intro before n c status payload after place
  rcases List.append_eq_append_iff.mp place with ⟨more, rfl, later⟩ | ⟨more, same, later⟩
  · exact hb more n c status payload after later
  · cases more with
    | nil => exact hb [] n c status payload after later.symm
    | cons o more =>
      obtain ⟨rfl, rfl⟩ := List.cons.inj later
      exact (ha before n c status payload more same).later b

theorem cons {n : Nat} {c : Completion} {status : StatusCode} {payload : Payload}
    {os : List Occurrence} (carried : Carried status payload c os) (h : Carries os) :
    Carries (.concluded n c status payload :: os) := by
  intro before m c' status' payload' after place
  cases before with
  | nil =>
    cases place
    exact carried
  | cons o before =>
    obtain ⟨-, rest⟩ := List.cons.inj place
    exact h before m c' status' payload' after rest

end Carries

/-! ### Runs of moves -/

/-- One outline comes after another, by moves if application code is modest meanwhile. -/
def Leads (may : Power → List Pass → Prop) (p q : Outline) : Prop :=
  p.transport.isLoopback = q.transport.isLoopback ∧
    ∃ os, q.history = p.history ++ os ∧ Carries os ∧
      (Modest may os → Relation.ReflTransGen (Move may) p q)

variable {may : Power → List Pass → Prop}

theorem Spares.modest {powers : List Power} {os : List Occurrence} (h : Spares powers os)
    (others : ∀ power, power ∉ powers → ∀ passes, may power passes) : Modest may os :=
  fun step took power needed => others power (h step took power needed)

theorem Spares.left {powers : List Power} {a b : List Occurrence} (h : Spares powers (a ++ b)) :
    Spares powers a :=
  fun step took => h step (List.mem_append_left b took)

theorem Spares.right {powers : List Power} {a b : List Occurrence} (h : Spares powers (a ++ b)) :
    Spares powers b :=
  fun step took => h step (List.mem_append_right a took)

/-- The powers that an occurrence shows to be used. -/
def Occurrence.uses : Occurrence → List Power
  | took step => step.needs
  | _ => []

instance (powers : List Power) (os : List Occurrence) : Decidable (Spares powers os) :=
  decidable_of_iff (∀ o ∈ os, ∀ power ∈ o.uses, power ∉ powers) <| by
    constructor
    · exact fun h step took => h (.took step) took
    · intro h o member
      cases o with
      | took step => exact h step member
      | _ => exact fun power used => absurd used List.not_mem_nil

theorem Modest.append {a b : List Occurrence} (h : Modest may (a ++ b)) :
    Modest may a ∧ Modest may b :=
  ⟨fun step took => h step (List.mem_append_left b took),
    fun step took => h step (List.mem_append_right a took)⟩

theorem Move.kind {p q : Outline} (m : Move may p q) :
    p.transport.isLoopback = q.transport.isLoopback := by
  cases m <;> simp_all [Outline.add, Outline.move, Transport.isLoopback]

theorem Move.grows {p q : Outline} (m : Move may p q) : ∃ os, q.history = p.history ++ os := by
  cases m <;> first | exact ⟨_, rfl⟩ | exact ⟨[], (List.append_nil _).symm⟩

namespace Leads

theorem refl (p : Outline) : Leads may p p :=
  ⟨rfl, [], (List.append_nil _).symm, .of_apart (by simp), fun _ => .refl⟩

theorem trans {p q r : Outline} (first : Leads may p q) (later : Leads may q r) :
    Leads may p r := by
  obtain ⟨kind, os, history, carries, moves⟩ := first
  obtain ⟨kind', os', history', carries', moves'⟩ := later
  refine ⟨kind.trans kind', os ++ os', by rw [history', history, List.append_assoc],
    carries.append carries', ?_⟩
  intro modest
  exact (moves modest.append.1).trans (moves' modest.append.2)

/-- A move that concludes no operation. -/
theorem of_move {p q : Outline} {os : List Occurrence} (m : Move may p q)
    (history : q.history = p.history ++ os) (apart : ∀ o ∈ os, o.concluded? = none) :
    Leads may p q :=
  ⟨m.kind, os, history, .of_apart apart, fun _ => .single m⟩

/-- The conclusion of an operation, and what comes of the invocation that makes it. -/
theorem conclude {p q : Outline} {n : Nat} {c : Completion} {status : StatusCode}
    {payload : Payload} {due : List (Nat × Completion)} (next : p.due = (n, c) :: due)
    (rest : Leads may
      { p with history := p.history ++ [.concluded n c status payload], due := due } q)
    (carried : ∃ os, q.history = p.history ++ [.concluded n c status payload] ++ os ∧
      Carried status payload c os) : Leads may p q := by
  obtain ⟨kind, os, history, carries, moves⟩ := rest
  obtain ⟨os', history', carried⟩ := carried
  obtain rfl : os = os' := List.append_cancel_left (history.symm.trans history')
  refine ⟨kind, .concluded n c status payload :: os, by simpa using history, carries.cons carried,
    fun modest => ?_⟩
  have later : Modest may os := fun step took => modest step (List.mem_cons_of_mem _ took)
  exact (Relation.ReflTransGen.single (.conclude next)).trans (moves later)

end Leads

/-! ### Actions -/

section
variable {α β : Type}

theorem bind_some {a : Run α} {f : α → Run β} {s : State} {r : β × State}
    (h : (a >>= f) s = some r) : ∃ x t, a s = some (x, t) ∧ f x t = some r := by
  obtain ⟨⟨x, t⟩, first, later⟩ := Option.bind_eq_some_iff.mp h
  exact ⟨x, t, first, later⟩

theorem bind_eq {x : Run α} {f : α → Run β} {y : α} {s t : State} (h : x s = some (y, t)) :
    (x >>= f) s = f y t := by
  simp [bind, StateT.bind, h]

theorem pure_some {x y : α} {s t : State} (h : (pure x : Run α) s = some (y, t)) :
    x = y ∧ s = t := by
  cases h
  exact ⟨rfl, rfl⟩

/-- An action that changes nothing that an outline shows. -/
def Silent (a : Run α) : Prop :=
  ∀ s x t, a s = some (x, t) → ∀ passes due, t.outline passes due = s.outline passes due

/-- An action whose runs are runs of moves. Within `passes`, it brings the operations `due` to their
completion. -/
def Follows (may : Power → List Pass → Prop) (passes : List Pass) (due : List (Nat × Completion))
    (a : Run α) : Prop :=
  ∀ s x t, a s = some (x, t) → ∀ others,
    Leads may (s.outline passes (due ++ others)) (t.outline passes others)

namespace Silent

theorem of_pure (x : α) : Silent (pure x : Run α) := by
  intro s y t h passes due
  rw [(pure_some h).2]

theorem of_get : Silent (get : Run State) := by
  intro s x t h passes due
  cases h
  rfl

theorem of_modify {f : State → State}
    (h : ∀ s passes due, (f s).outline passes due = s.outline passes due) :
    Silent (modify f : Run Unit) := by
  intro s x t run passes due
  cases run
  exact h s passes due

theorem bind {a : Run α} {f : α → Run β} (ha : Silent a) (hf : ∀ x, Silent (f x)) :
    Silent (a >>= f) := by
  intro s y u h passes due
  obtain ⟨x, t, first, later⟩ := bind_some h
  rw [hf x t y u later, ha s x t first]

end Silent

namespace Follows

variable {passes : List Pass} {due : List (Nat × Completion)}

theorem of_silent {a : Run α} (h : Silent a) : Follows may passes [] a := by
  intro s x t run others
  rw [h s x t run]
  exact .refl _

theorem of_pure (x : α) : Follows may passes [] (pure x : Run α) := of_silent (.of_pure x)

/-- The first action may bring some operations to their completion, the rest others. -/
theorem bind {a : Run α} {f : α → Run β} {first rest : List (Nat × Completion)}
    (ha : Follows may passes first a) (hf : ∀ x, Follows may passes rest (f x)) :
    Follows may passes (first ++ rest) (a >>= f) := by
  intro s y u h others
  obtain ⟨x, t, run, later⟩ := bind_some h
  rw [List.append_assoc]
  exact (ha s x t run (rest ++ others)).trans (hf x t y u later others)

/-- The first action brings the operations to their completion. -/
theorem bind_first {a : Run α} {f : α → Run β} (ha : Follows may passes due a)
    (hf : ∀ x, Follows may passes [] (f x)) : Follows may passes due (a >>= f) := by
  simpa using bind ha hf

/-- The rest brings the operations to their completion. -/
theorem bind_rest {a : Run α} {f : α → Run β} (ha : Follows may passes [] a)
    (hf : ∀ x, Follows may passes due (f x)) : Follows may passes due (a >>= f) :=
  bind ha hf

end Follows

/-- The action forgets nothing that has happened. -/
def Grows (a : Run α) : Prop :=
  ∀ s x t, a s = some (x, t) → s.history <+: t.history

namespace Grows

theorem of_pure (x : α) : Grows (pure x : Run α) := by
  intro s y t run
  obtain ⟨-, rfl⟩ := pure_some run
  exact List.prefix_rfl

theorem bind {a : Run α} {f : α → Run β} (ha : Grows a) (hf : ∀ x, Grows (f x)) :
    Grows (a >>= f) := by
  intro s y u run
  obtain ⟨x, t, first, later⟩ := bind_some run
  exact (ha s x t first).trans (hf x t y u later)

theorem of_silent {a : Run α} (h : Silent a) : Grows a := by
  intro s x t run
  have same : t.history = s.history := congrArg Outline.history (h s x t run [] [])
  exact same ▸ List.prefix_rfl

theorem of_note (o : Occurrence) : Grows (note o) := by
  intro s x t run
  cases run
  exact ⟨[o], by simp [State.history]⟩

theorem of_count (f : Stats → Stats) : Grows (count f) := by
  intro s x t run
  cases run
  exact List.prefix_rfl

end Grows

theorem Follows.grows {passes : List Pass} {due : List (Nat × Completion)} {a : Run α}
    (h : Follows may passes due a) : Grows a := by
  intro s x t run
  obtain ⟨-, os, history, -⟩ := h s x t run []
  exact ⟨os, history.symm⟩

end

/-! ### Silent actions -/

theorem silent_timeOfDay : Silent timeOfDay := by
  intro s x t h passes due
  cases h
  rfl

theorem silent_steadyTime : Silent steadyTime := by
  intro s x t h passes due
  cases h
  rfl

theorem silent_newCell : Silent newCell := by
  intro s x t h passes due
  cases h
  rfl

theorem silent_setCell (cell : Nat) (c : Cell) : Silent (setCell cell c) :=
  .of_modify fun _ _ _ => rfl

theorem silent_getCell (cell : Nat) : Silent (getCell cell) :=
  .bind .of_get fun _ => .of_pure _

theorem silent_takeOutcome (cell : Nat) : Silent (takeOutcome cell) := by
  refine .bind (silent_getCell cell) fun c => ?_
  cases c with
  | waiting => exact .of_pure _
  | ready outcome => exact .bind (silent_setCell cell .spent) fun _ => .of_pure _
  | spent => exact .of_pure _

theorem silent_drop (c : Completion) : Silent (drop c) := by
  cases c with
  | future cell =>
    refine .bind (silent_getCell cell) fun c => ?_
    cases c with
    | waiting => exact silent_setCell cell .spent
    | ready _ | spent => exact .of_pure _
  | nobody | handler _ => exact .of_pure _

theorem silent_dropAny (c : Option Completion) : Silent (dropAny c) := by
  cases c with
  | some c => exact silent_drop c
  | none => exact .of_pure _

theorem caught_run (desk : Desk) (s : State) : caught desk s = some (s.held desk, s) := by
  cases desk <;> rfl

theorem silent_caught (desk : Desk) : Silent (caught desk) := by
  intro s x t h passes due
  rw [caught_run] at h
  cases h
  rfl

/-! ### Notes and catchers -/

section
variable {passes : List Pass} {due : List (Nat × Completion)}

theorem held_congr {s t : State} (client : t.caught = s.caught)
    (spare : t.spareCaught = s.spareCaught) : t.held = s.held := by
  funext desk
  cases desk
  · exact client
  · exact spare

theorem outline_note {o : Occurrence} {s t : State} {x : Unit} (h : note o s = some (x, t)) :
    t.outline passes due = (s.outline passes due).add [o] := by
  cases h
  have same : ({ s with journal := s.journal.push o } : State).held = s.held := held_congr rfl rfl
  simp [State.outline, State.history, Outline.add, same]

theorem history_note {o : Occurrence} {s t : State} {x : Unit} (h : note o s = some (x, t)) :
    t.history = s.history ++ [o] := by
  have same : t.outline [] [] = _ := outline_note h
  exact congrArg Outline.history same

theorem held_setCaught {desk : Desk} {e : Option Failure} {s t : State} {x : Unit}
    (h : setCaught desk e s = some (x, t)) :
    t.outline passes due =
      { s.outline passes due with held := Function.update s.held desk e } := by
  cases h
  cases desk <;> simp only [State.outline, State.history, Outline.mk.injEq, and_self, and_true,
    true_and] <;> funext other <;> cases other <;> rfl

theorem note_follows {o : Occurrence} (h : o.isPlain) : Follows may passes [] (note o) := by
  intro s x t run others
  rw [outline_note run]
  exact .of_move (.plain h) rfl (by simp [Occurrence.concluded?_of_isPlain h])

theorem concluded?_of_arrival {o : Occurrence} {desk : Desk} {e : Failure}
    (arrives : o.arrival? = some (desk, e)) : o.concluded? = none := by
  rcases Occurrence.arrival?_eq_some arrives with rfl | ⟨p, rfl, rfl⟩ | rfl <;> rfl

/-- A failure that arrives at a catcher is kept by it if it holds none, and dropped otherwise. -/
theorem outline_arrive {o : Occurrence} {desk : Desk} {e : Failure} {s t u : State} {x y : Unit}
    (noted : note o s = some (x, t)) (stored : store desk e t = some (y, u)) :
    u.outline passes due =
      { s.outline passes due with
        held := Function.update s.held desk (some ((s.held desk).getD e))
        history := s.history ++ [o, .verdict desk (s.held desk) e] } := by
  have same : t.held = s.held := by cases noted; rfl
  obtain ⟨found, v, read, stored⟩ := bind_some stored
  rw [caught_run] at read
  obtain ⟨rfl, rfl⟩ := Prod.mk.inj (Option.some.inj read)
  rw [same] at stored
  cases held : s.held desk with
  | some pending =>
    rw [held] at stored
    rw [outline_note stored, outline_note noted]
    simp [State.outline, Outline.add, Occurrence.verdict, held]
  | none =>
    rw [held] at stored
    obtain ⟨_, w, entered, kept⟩ := bind_some stored
    rw [held_setCaught kept, outline_note entered, outline_note noted]
    have unchanged : w.held = s.held := by cases entered; exact same
    simp [State.outline, Outline.add, Occurrence.verdict, unchanged]

theorem arrive_leads {o : Occurrence} {desk : Desk} {e : Failure}
    (arrives : o.arrival? = some (desk, e)) {s t u : State} {x y : Unit}
    (noted : note o s = some (x, t)) (stored : store desk e t = some (y, u)) :
    Leads may (s.outline passes due) (u.outline passes due) := by
  rw [outline_arrive noted stored]
  refine .of_move (.fail (p := s.outline passes due) arrives) rfl fun o' member => ?_
  rcases List.mem_pair.mp member with rfl | rfl
  · exact concluded?_of_arrival arrives
  · cases s.held desk <;> rfl

/-- Nothing is taken out of an empty catcher, and out of another one what it holds. -/
theorem rethrow_cases {desk : Desk} {found : Option Failure} {s t : State}
    (run : rethrow desk s = some (found, t)) :
    (found = none ∧ s.held desk = none ∧ s = t) ∨
      ∃ e, found = some e ∧ s.held desk = some e ∧ ∀ passes due, t.outline passes due =
        { s.outline passes due with
          held := Function.update s.held desk none
          history := s.history ++ [.failureRethrown desk e] } := by
  obtain ⟨held, v, read, run⟩ := bind_some run
  rw [caught_run] at read
  obtain ⟨rfl, rfl⟩ := Prod.mk.inj (Option.some.inj read)
  cases held : s.held desk with
  | none =>
    rw [held] at run
    obtain ⟨rfl, rfl⟩ := pure_some run
    exact .inl ⟨rfl, rfl, rfl⟩
  | some e =>
    rw [held] at run
    obtain ⟨_, u, taken, run⟩ := bind_some run
    obtain ⟨_, w, noted, run⟩ := bind_some run
    obtain ⟨rfl, rfl⟩ := pure_some run
    refine .inr ⟨e, rfl, rfl, fun passes due => ?_⟩
    rw [outline_note noted, held_setCaught taken]
    rfl

theorem rethrow_follows {desk : Desk} (allowed : desk = .client → may .rethrow passes) :
    Follows may passes [] (rethrow desk) := by
  intro s found t run others
  rcases rethrow_cases run with ⟨-, -, rfl⟩ | ⟨e, -, holds, after⟩
  · exact .refl _
  · rw [after]
    exact .of_move (.rethrow (p := s.outline passes others) holds allowed) rfl (by
      simp [Occurrence.concluded?])

end

end OpcUa.Client
