import OpcUa.Proofs.Session.Run

/-!
What invoking a completion comes to: a future has its outcome, nobody does nothing, and a handler is
called, takes its steps, and ends, with a failure if it ends with an error or in a panic. Telling a
completion inside a catcher is a run of moves.
-/

namespace OpcUa.Client

open Run

variable {may : Power → List Pass → Prop}

/-! ### Invocations -/

/-- What application code that ends leaves its caller with: a panic becomes a failure. -/
inductive Ends : Ending → Except Failure Unit → Prop
  | done : Ends .done (.ok ())
  | error (e : Failure) : Ends (.error e) (.error e)
  | panic (p : Panic) : Ends (.panic p) (.error (.panicked p.message))

/-- What is on record when a handler ends inside a catcher that holds `held`: if it fails, the
failure is stored or dropped at once. -/
inductive EndsInside (desk : Desk) (held : Option Failure) : Ending → List Occurrence → Prop
  | done : EndsInside desk held .done [.ended (some desk) .done]
  | error (e : Failure) : EndsInside desk held (.error e)
      [.ended (some desk) (.error e), .verdict desk held e]
  | panic (p : Panic) : EndsInside desk held (.panic p)
      [.ended (some desk) (.panic p), .verdict desk held (.panicked p.message)]

theorem EndsInside.starts {desk : Desk} {held : Option Failure} {ending : Ending}
    {os : List Occurrence} (h : EndsInside desk held ending os) :
    ∃ after, os = .ended (some desk) ending :: after := by
  cases h with
  | done | error e | panic p => exact ⟨_, rfl⟩

/-- The state in which it is on record that a completion concludes an operation. -/
def Occasion.noted (on : Occasion) (c : Completion) (status : StatusCode) (payload : Payload)
    (s : State) : State :=
  match on.operation with
  | some n => { s with journal := s.journal.push (.concluded n c status payload) }
  | none => s

/-- What invoking a completion does: a future has its outcome, nobody does nothing, and a handler is
called with the status and the payload, takes the steps that it chooses, and ends as it chooses. -/
inductive Invokes (act : Act) (on : Occasion) (status : StatusCode) (payload : Payload)
    (s : State) : Completion → Except Failure Unit → State → Prop
  | future (cell : Nat) :
      Invokes act on status payload s (.future cell) (.ok ())
        (on.noted (.future cell) status payload { s with
          cells := s.cells.setIfInBounds cell (.ready (futureOutcome status payload)) })
  | nobody :
      Invokes act on status payload s .nobody (.ok ()) (on.noted .nobody status payload s)
  | handler {h : Handler} {called taken : State} {outcome : Except Failure Unit}
      (calls : note (.called h.name status (if h.statusOnly then none else some payload))
        (on.noted (.handler h) status payload s) = some ((), called))
      (takes : runSteps act h.name (h.react status payload).1 called = some ((), taken))
      (ends : Ends (h.react status payload).2 outcome) :
      Invokes act on status payload s (.handler h) outcome
        { taken with journal := taken.journal.push (.ended on.desk (h.react status payload).2) }

theorem Ends.iff {ending : Ending} {outcome : Except Failure Unit} :
    Ends ending outcome ↔ ending.outcome = outcome := by
  constructor
  · rintro (_ | _ | _) <;> rfl
  · rintro rfl
    cases ending with
    | done => exact .done
    | error e => exact .error e
    | panic p => exact .panic p

section
variable {on : Occasion} {c : Completion} {status : StatusCode} {payload : Payload} {s t : State}

@[simp] theorem Occasion.noted_transport :
    (on.noted c status payload s).transport = s.transport := by
  unfold Occasion.noted
  split <;> rfl

@[simp] theorem Occasion.noted_cells : (on.noted c status payload s).cells = s.cells := by
  unfold Occasion.noted
  split <;> rfl

@[simp] theorem Occasion.noted_held : (on.noted c status payload s).held = s.held := by
  unfold Occasion.noted
  split
  · exact held_congr rfl rfl
  · rfl

theorem noteConcluded_run :
    on.noteConcluded c status payload s = some ((), on.noted c status payload s) := by
  unfold Occasion.noteConcluded Occasion.noted
  cases on.operation <;> rfl

/-- Invoking a completion does what it should, whatever it comes to. -/
theorem invoke_iff {act : Act} {outcome : Except Failure Unit} :
    c.invoke act on status payload s = some (outcome, t) ↔
      Invokes act on status payload s c outcome t := by
  have reached : c.invoke act on status payload s = _ := bind_eq noteConcluded_run
  rw [reached]
  cases c with
  | future cell =>
    have sets : setCell cell (.ready (futureOutcome status payload))
        (on.noted (.future cell) status payload s) =
        some ((), on.noted (.future cell) status payload { s with
          cells := s.cells.setIfInBounds cell (.ready (futureOutcome status payload)) }) := by
      unfold Occasion.noted
      cases on.operation <;> rfl
    have given : (do setCell cell (.ready (futureOutcome status payload)); return .ok () :
        Run (Except Failure Unit)) (on.noted (.future cell) status payload s) = _ := bind_eq sets
    constructor
    · intro run
      obtain ⟨rfl, rfl⟩ := pure_some (given.symm.trans run)
      exact .future cell
    · rintro ⟨⟩
      exact given
  | nobody =>
    constructor
    · intro run
      obtain ⟨rfl, rfl⟩ := pure_some run
      exact .nobody
    · rintro ⟨⟩
      rfl
  | handler h =>
    constructor
    · intro run
      obtain ⟨_, called, calls, run⟩ := bind_some run
      obtain ⟨_, taken, takes, run⟩ := bind_some run
      obtain ⟨_, last, noted, run⟩ := bind_some run
      obtain ⟨rfl, rfl⟩ := pure_some run
      cases noted
      exact .handler calls takes (Ends.iff.mpr rfl)
    · rintro (_ | _ | ⟨calls, takes, ends⟩)
      obtain rfl := Ends.iff.mp ends
      exact (bind_eq calls).trans ((bind_eq takes).trans (bind_eq (y := ()) rfl))

end

/-! ### Invocations as moves -/

/-- Whatever application code does next is a run of moves, and is on record. -/
structure Obliging (may : Power → List Pass → Prop) (act : Act) : Prop where
  follows : ∀ step passes, Follows may passes [] (takeStep act step)
  grows : ∀ step, Grows (act step)

section
variable {act : Act} {passes : List Pass} {due : List (Nat × Completion)}

theorem takeSteps_follows (obliging : Obliging may act) (steps : List Step) :
    Follows may passes [] (takeSteps act steps) := by
  induction steps with
  | nil => exact .of_pure _
  | cons step rest ih => exact .bind_rest (obliging.follows step passes) fun _ => ih

/-- While a handler takes its steps, these are on record. -/
theorem runSteps_taken (obliging : Obliging may act) {name : String} {steps : List Step}
    {s t : State} {x : Unit} (run : runSteps act name steps s = some (x, t)) :
    ∃ os, t.history = s.history ++ os ∧ TakenIn name steps os := by
  induction steps generalizing s with
  | nil =>
    obtain ⟨-, rfl⟩ := pure_some run
    exact ⟨[], by simp, .nil⟩
  | cons step rest ih =>
    obtain ⟨answer, u, took, run⟩ := bind_some run
    obtain ⟨_, v, told, run⟩ := bind_some run
    obtain ⟨later, history, taken⟩ := ih run
    obtain ⟨_, w, noted, acted⟩ := bind_some took
    obtain ⟨inner, grown⟩ := obliging.grows step w answer u acted
    refine ⟨.took step :: (inner ++ .inside name answer :: later), ?_, taken.cons⟩
    have taking : w.history = s.history ++ [.took step] := history_note noted
    have telling : v.history = u.history ++ [.inside name answer] := history_note told
    rw [history, telling, ← grown, taking]
    simp

theorem runSteps_follows (obliging : Obliging may act) (name : String) (steps : List Step) :
    Follows may passes [] (runSteps act name steps) := by
  induction steps with
  | nil => exact .of_pure _
  | cons step rest ih =>
    refine .bind_rest (obliging.follows step passes) fun answer => ?_
    exact .bind_rest (note_follows rfl) fun _ => ih

section
variable {h : Handler} {status : StatusCode} {payload : Payload} {s called taken : State}
  (calls : note (.called h.name status (if h.statusOnly then none else some payload)) s =
    some ((), called))
  (takes : runSteps act h.name (h.react status payload).1 called = some ((), taken))
include calls takes

/-- A handler that was called is on record up to its end. -/
theorem call_taken (obliging : Obliging may act) :
    ∃ middle, TakenIn h.name (h.react status payload).1 middle ∧ taken.history = s.history ++
      .called h.name status (if h.statusOnly then none else some payload) :: middle := by
  obtain ⟨middle, history, took⟩ := runSteps_taken obliging takes
  refine ⟨middle, took, ?_⟩
  rw [history, history_note calls]
  simp

theorem call_leads (obliging : Obliging may act) :
    Leads may (s.outline passes due) (taken.outline passes due) := by
  have first : Leads may (s.outline passes due) (called.outline passes due) :=
    note_follows rfl s _ called calls due
  exact first.trans (runSteps_follows obliging _ _ called () taken takes due)

end

/-- An invocation outside of any catcher that concludes no operation. -/
theorem invoke_follows (obliging : Obliging may act) (c : Completion) (status : StatusCode)
    (payload : Payload) : Follows may passes [] (c.invoke act {} status payload) := by
  intro s outcome t run others
  cases invoke_iff.mp run with
  | future cell => exact .refl _
  | nobody => exact .refl _
  | @handler h called taken _ calls takes ends =>
    have body : Leads may (s.outline passes others) (taken.outline passes others) :=
      call_leads calls takes obliging
    refine body.trans ?_
    exact note_follows (o := .ended none _) rfl taken () _ rfl others

variable {ρ : Type} (a : Adapter ρ)

/-- The operation that an adapter is to conclude and the completion that it tells. -/
def Adapter.charge? : Option (Nat × Completion) := a.operation.map fun n => (n, a.completion)

/-- An invocation is on record before it does anything. -/
theorem noted_leads {on : Occasion} {c : Completion} {status : StatusCode} {payload : Payload}
    {s : State} {q : Outline}
    (rest : Leads may ((on.noted c status payload s).outline passes due) q)
    (carried : ∃ os, q.history = (on.noted c status payload s).history ++ os ∧
      Carried status payload c os) :
    Leads may (s.outline passes ((on.operation.map fun n => (n, c)).toList ++ due)) q := by
  obtain ⟨operation, desk⟩ := on
  cases operation with
  | none => exact rest
  | some n =>
    obtain ⟨os, history, carried⟩ := carried
    have noted : note (.concluded n c status payload) s =
      some ((), (⟨some n, desk⟩ : Occasion).noted c status payload s) := rfl
    rw [outline_note noted] at rest
    rw [history_note noted] at history
    exact .conclude (p := s.outline passes ((n, c) :: due)) rfl rest ⟨os, history, carried⟩

section
variable {desk : Desk} {ending : Ending} {outcome : Except Failure Unit} {s t : State}
  {x : Option Unit} (ends : Ends ending outcome)
  (settled : catching desk (pure outcome)
    { s with journal := s.journal.push (.ended (some desk) ending) } = some (x, t))
include ends settled

/-- A handler that ends inside a catcher leaves there what it fails with. -/
theorem ended_inside :
    ∃ os, t.history = s.history ++ os ∧ EndsInside desk (s.held desk) ending os := by
  have noted : note (.ended (some desk) ending) s =
      some ((), { s with journal := s.journal.push (.ended (some desk) ending) }) := rfl
  have stored : ∀ {e : Failure} {y : Unit} {u : State},
      store desk e { s with journal := s.journal.push (.ended (some desk) ending) } =
        some (y, u) →
      u.history = s.history ++ [.ended (some desk) ending, .verdict desk (s.held desk) e] := by
    intro e y u stores
    have same : u.outline [] [] = _ := outline_arrive noted stores
    exact congrArg Outline.history same
  obtain ⟨_, w, given, settled⟩ := bind_some settled
  obtain ⟨rfl, rfl⟩ := pure_some given
  cases ends with
  | done =>
    obtain ⟨-, rfl⟩ := pure_some settled
    exact ⟨_, history_note noted, .done⟩
  | error e =>
    obtain ⟨_, u, stores, settled⟩ := bind_some settled
    obtain ⟨-, rfl⟩ := pure_some settled
    exact ⟨_, stored stores, .error e⟩
  | panic p =>
    obtain ⟨_, u, stores, settled⟩ := bind_some settled
    obtain ⟨-, rfl⟩ := pure_some settled
    exact ⟨_, stored stores, .panic p⟩

theorem ended_leads : Leads may (s.outline passes due) (t.outline passes due) := by
  have noted : note (.ended (some desk) ending) s =
      some ((), { s with journal := s.journal.push (.ended (some desk) ending) }) := rfl
  obtain ⟨_, w, given, settled⟩ := bind_some settled
  obtain ⟨rfl, rfl⟩ := pure_some given
  cases ends with
  | done =>
    obtain ⟨-, rfl⟩ := pure_some settled
    exact note_follows rfl s () _ noted due
  | error e | panic p =>
    obtain ⟨_, u, stores, settled⟩ := bind_some settled
    obtain ⟨-, rfl⟩ := pure_some settled
    exact arrive_leads rfl noted stores

end

/-- A handler that an adapter tells is called, takes its steps, and ends inside the catcher. -/
theorem conclude_inside {h : Handler} {status : StatusCode} {payload : Payload} {s t : State}
    {x : Unit} (tells : a.completion = .handler h)
    (run : a.conclude act status payload s = some (x, t)) :
    ∃ called taken,
      note (.called h.name status (if h.statusOnly then none else some payload))
        (a.occasion.noted (.handler h) status payload s) = some ((), called) ∧
      runSteps act h.name (h.react status payload).1 called = some ((), taken) ∧
      ∃ os, t.history = taken.history ++ os ∧
        EndsInside a.desk (taken.held a.desk) (h.react status payload).2 os := by
  obtain ⟨_, u, caught, run⟩ := bind_some run
  obtain ⟨-, rfl⟩ := pure_some run
  obtain ⟨outcome, v, invoked, settled⟩ := bind_some caught
  rw [tells] at invoked
  rcases invoke_iff.mp invoked with _ | _ | ⟨calls, takes, ends⟩
  exact ⟨_, _, calls, takes, ended_inside ends settled⟩

theorem conclude_follows (obliging : Obliging may act) (status : StatusCode) (payload : Payload) :
    Follows may passes a.charge?.toList (a.conclude act status payload) := by
  intro s x t run others
  obtain ⟨_, u, caught, run⟩ := bind_some run
  obtain ⟨-, rfl⟩ := pure_some run
  obtain ⟨outcome, v, invoked, settled⟩ := bind_some caught
  have charge : a.charge?.toList =
      (a.occasion.operation.map fun n => (n, a.completion)).toList := rfl
  rw [charge]
  generalize a.completion = c at invoked ⊢
  cases invoke_iff.mp invoked with
  | future cell =>
    obtain ⟨-, rfl⟩ := pure_some settled
    exact noted_leads (s := { s with
      cells := s.cells.setIfInBounds cell (.ready (futureOutcome status payload)) })
      (.refl _) ⟨[], (List.append_nil _).symm, .future⟩
  | nobody =>
    obtain ⟨-, rfl⟩ := pure_some settled
    exact noted_leads (.refl _) ⟨[], (List.append_nil _).symm, .nobody⟩
  | @handler h called taken _ calls takes ends =>
    obtain ⟨middle, took, history⟩ := call_taken calls takes obliging
    obtain ⟨os, later, inside⟩ := ended_inside ends settled
    obtain ⟨after, rfl⟩ := inside.starts
    have whole : u.history = (a.occasion.noted (.handler h) status payload s).history ++
        .called h.name status (if h.statusOnly then none else some payload) ::
          (middle ++ .ended (some a.desk) (h.react status payload).2 :: after) := by
      rw [later, history]
      simp
    have body : Leads may _ (taken.outline passes others) := call_leads calls takes obliging
    exact noted_leads (body.trans (ended_leads ends settled)) ⟨_, whole, .handler took⟩

theorem adapter_receive_follows (obliging : Obliging may act) (id : UInt32) (response : Option ρ) :
    Follows may passes a.charge?.toList (a.receive act id response) := by
  cases response with
  | none =>
    refine .bind_rest (note_follows rfl) fun _ => ?_
    refine .bind_rest (note_follows rfl) fun _ => ?_
    exact .bind_first (conclude_follows a obliging _ _) fun _ => .of_pure _
  | some r =>
    refine .bind_rest (takeSteps_follows obliging _) fun _ => ?_
    split
    next =>
      refine .bind_rest (note_follows rfl) fun _ => ?_
      exact .bind_first (conclude_follows a obliging _ _) fun _ => .of_pure _
    next =>
      refine .bind_rest (note_follows rfl) fun _ => ?_
      refine .bind_rest (note_follows rfl) fun _ => ?_
      exact .bind_first (conclude_follows a obliging _ _) fun _ => .of_pure _

theorem misdirect_follows : Follows may passes [] a.misdirect :=
  .bind_rest (note_follows rfl) fun _ => .of_silent (silent_drop _)

end

section
variable {act : Act} {passes : List Pass}

theorem receive_follows (obliging : Obliging may act) (r : Receiver) (id : UInt32)
    (response : Option AnyResponse) :
    Follows may passes r.charge?.toList (r.receive act id response) := by
  cases r with
  | adapter s a => exact .bind_first (adapter_receive_follows a obliging _ _) fun _ => .of_pure _
  | probe => exact note_follows rfl

end

end OpcUa.Client
