import OpcUa.Proofs.Session.ExactlyOnce
import OpcUa.Proofs.Session.Observers

/-!
An operation comes to one outcome, and leaves one state behind, whoever asked for it and however it
was started; and a synchronous call is the same operation with the passes that it needs.
-/

namespace OpcUa.Client

open Run

/-! ### What the tokens see -/

/-- A session over the loopback transport between two steps. -/
def State.Between (s : State) : Prop :=
  ∃ depth config clocks space maxPending steps reports report,
    play depth (.start config (.loopback { space := space, maxPending := maxPending }) clocks)
      steps = some reports ∧ report ∈ reports ∧ report.after = s

/-- Sessions that differ at most in their journals, in futures of certain names, and in how the cells
of the others are numbered. -/
def State.Alike (apart : List String) (s s' : State) : Prop :=
  ∃ P m, P.hidden = apart ∧ Pairing.States P m s s'

/-- When a wait that begins now gives up. -/
def State.deadline? (s : State) : Option Nat :=
  Client.deadline? (s.clocks.steady s.clocks.steadyLooks) s.config.requestTimeout

/-- How often a wait that begins now looks at the clock before its first pass. -/
def State.looksOfWait (s : State) : Nat := 1 + s.deadline?.toList.length

/-! ### Sessions between steps -/

theorem State.Between.balanced {s : State} (between : s.Between) :
    ∃ l, Balanced (s.outline [] []) l := by
  obtain ⟨depth, config, clocks, space, maxPending, steps, reports, report, run, member, rfl⟩ :=
    between
  have free : ∀ step ∈ steps, step.Granted (fun _ _ => True) [] :=
    fun step _ power _ => trivial
  obtain ⟨-, os, -, -, moves⟩ := playFrom_leads free run report member
  have initial :=
    Balanced.start config clocks (l := { space := space, maxPending := maxPending }) rfl
  exact initial.run (moves fun _ _ _ _ _ => trivial)

theorem State.Between.sound {s : State} (between : s.Between) : s.Sound := by
  obtain ⟨depth, config, clocks, space, maxPending, steps, reports, report, run, member, rfl⟩ :=
    between
  exact playFrom_sound (.start config clocks rfl) run report member

section
variable {hidden names : List String} {token : Token} {s t u : State} {k : Call} {l : Loopback}
  {depth looks : Nat} {r : Except Failure Nat}

/-- Where starting an operation leads, for every token that only observes it; and from the states
that differ in the token alone, one pass comes to the same and tells both tokens the same. -/
structure Starts (k : Call) (s : State) (start : Token → State) : Prop where
  started : ∀ passes act token, token.Observes →
    dispatch passes act token (.call k) s = some (.started, start token)
  passed : ∀ {hidden depth looks r t} {token token' : Token}, token.Watches → token'.Watches →
    (∀ name ∈ token.names, name ∈ hidden) → (∀ name ∈ token'.names, name ∈ hidden) →
    runIterate (performSparing hidden depth) ((start token).later looks) = some (r, t) →
    ∃ m t', runIterate (performSparing hidden depth) ((start token').later looks) = some (r, t') ∧
      Pairing.BothTold hidden s.cells.size s.operations token token' m t t'

end

/-! ### Waiting -/

section
variable {act : Act} {cell : Nat} {outcome : Except Failure Payload} {deadline : Option Nat}
  {s : State}

theorem takeOutcome_spends (resolved : s.Resolved cell outcome) :
    takeOutcome cell s = some (some outcome, s.filled .sync cell .spent) := by
  have found : getCell cell s = some (.ready outcome, s) := by
    show some ((s.cells[cell]?).getD .spent, s) = _
    rw [resolved]
    rfl
  exact bind_eq found

theorem waitFor_resolved (resolved : s.Resolved cell outcome) (passes : Nat) :
    waitFor act cell deadline passes s = some (outcome, s.filled .sync cell .spent) := by
  cases passes <;> exact bind_eq (takeOutcome_spends resolved)

theorem waitOr_waiting {goOn : Run (Except Failure Payload)}
    (waiting : s.cells[cell]? = some .waiting)
    (early : ∀ d, deadline = some d → s.clocks.steady s.clocks.steadyLooks < d) :
    waitOr cell deadline goOn s = goOn (s.later deadline.toList.length) := by
  have found : getCell cell s = some (.waiting, s) := by
    show some ((s.cells[cell]?).getD .spent, s) = _
    rw [waiting]
    rfl
  have nothing : takeOutcome cell s = some (none, s) := bind_eq found
  have isEarly : hasCome deadline s = some (false, s.later deadline.toList.length) := by
    cases deadline with
    | none => rfl
    | some d =>
      have before := early d rfl
      show some (decide (s.clocks.steady s.clocks.steadyLooks ≥ d), s.later 1) = _
      rw [decide_eq_false (Nat.not_le.mpr before)]
      rfl
  exact (bind_eq nothing).trans (bind_eq isEarly)

end

theorem later_later (s : State) (looks more : Nat) :
    (s.later looks).later more = s.later (looks + more) := by
  simp only [State.later, Nat.add_assoc]

section
variable {act : Act} {k : Call} {s u v : State} {l : Loopback}

theorem sync_waits
    (started : submit act k (.future s.cells.size) { s with cells := s.cells.push .waiting } =
      some ((), u))
    (config : u.config = s.config) (steady : u.clocks.steady = s.clocks.steady)
    (looks : u.clocks.steadyLooks = s.clocks.steadyLooks) (passes : Nat) :
    perform1 passes act (.call k .sync) s =
      (do return Answer.outcome (← waitFor act s.cells.size s.deadline? passes)) (u.later 1) := by
  have waited : wait passes act s.cells.size u =
      waitFor act s.cells.size s.deadline? passes (u.later 1) := by
    have looked : steadyTime u = some (s.clocks.steady s.clocks.steadyLooks, u.later 1) := by
      rw [← steady, ← looks]
      rfl
    refine (bind_eq looked).trans ((bind_eq (y := u.later 1) (t := u.later 1) rfl).trans ?_)
    have same : (u.later 1).config = s.config := config
    rw [same]
    rfl
  have ends : (do return Answer.outcome (← wait passes act s.cells.size) : Run Answer) u =
      (do return Answer.outcome (← waitFor act s.cells.size s.deadline? passes)) (u.later 1) :=
    bind_congr_run waited _
  exact (bind_eq (newCell_run s)).trans ((bind_eq started).trans ends)

variable (loopback : s.transport = .loopback l)
include loopback

variable (accepts : l.Accepts)
  (early : ∀ d, s.deadline? = some d → s.clocks.steady (s.clocks.steadyLooks + 1) < d)
include accepts early

theorem sync_goes_on {goOn : Run (Except Failure Payload)} {passes : Nat}
    (unfolds : waitFor act s.cells.size s.deadline? passes = waitOr s.cells.size s.deadline? goOn) :
    perform1 passes act (.call k .sync) s =
      (do return Answer.outcome (← goOn))
        ((k.acceptedFor .sync l s).later s.looksOfWait) := by
  have same : ({ s with cells := s.cells.push .waiting } : State).transport = .loopback l := loopback
  have started := @submit_accepted act k (.future s.cells.size) l _ same accepts
  rw [sync_waits started rfl rfl rfl passes, unfolds]
  refine bind_congr_run ?_ _
  refine (waitOr_waiting (s := (k.acceptedFor .sync l s).later 1)
    Array.getElem?_push_size early).trans ?_
  rw [later_later]
  rfl

theorem sync_accepted {n : Nat} {outcome : Except Failure Payload}
    (passed : runIterate act
      ((k.acceptedFor .sync l s).later s.looksOfWait) =
      some (.ok n, v))
    (resolved : v.Resolved s.cells.size outcome) (passes : Nat) :
    perform1 (passes + 1) act (.call k .sync) s =
      some (.outcome outcome, v.filled .sync s.cells.size .spent) := by
  rw [sync_goes_on loopback accepts early rfl]
  exact bind_eq ((bind_eq passed).trans (waitFor_resolved resolved passes))

end

/-! ### Quiet passes -/

section
variable {s : State} {l : Loopback} (loopback : s.transport = .loopback l)
include loopback

end

end OpcUa.Client
