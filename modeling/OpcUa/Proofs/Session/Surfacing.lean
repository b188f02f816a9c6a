import OpcUa.Proofs.Session.Catcher

/-!
Where the failures of handlers come out. A pass of the client over an open transport hands out the
first failure that arrived in it. Over a closed transport the handlers of the abandoned requests run
as well, but the pass fails with the transport, and what they failed with stays in the catcher.
-/

namespace OpcUa.Client

open Run

/-- The powers of application code that makes no passes, and takes no failure out of the client's
catcher. -/
def withoutDriving : Power → List Pass → Prop
  | .pass, passes => passes = []
  | .rethrow, _ => False
  | .space, _ => True

/-- The failure of a handler that the client ran. -/
def Occurrence.failed? : Occurrence → Option Failure
  | ended (some .client) (.error e) => some e
  | ended (some .client) (.panic p) => some (.panicked p.message)
  | _ => none

/-- The failures of the handlers that the client ran, in order. -/
def failuresIn (os : List Occurrence) : List Failure := os.filterMap Occurrence.failed?

/-- The first failure that arrived at the client's catcher. -/
def firstArrival (os : List Occurrence) : Option Failure :=
  os.findSome? (Occurrence.arrivalAt? .client)

/-! ### Arrivals -/

theorem undriven_modest {os : List Occurrence} (h : Spares [.pass, .rethrow] os) :
    Modest withoutDriving os := by
  refine h.modest fun power spared passes => ?_
  cases power with
  | pass | rethrow => simp at spared
  | space => trivial

theorem firstArrival_append (a b : List Occurrence) :
    firstArrival (a ++ b) = (firstArrival a).or (firstArrival b) :=
  List.findSome?_append

theorem firstArrival_apart {os : List Occurrence} (apart : ∀ o ∈ os, o.desk? ≠ some .client) :
    firstArrival os = none := by
  unfold firstArrival
  rw [List.findSome?_eq_none_iff]
  exact fun o member => (apart_cases (apart o member)).1

theorem arrivalAt?_of_failed {o : Occurrence} {e : Failure} (h : o.failed? = some e) :
    o.arrivalAt? .client = some e := by
  unfold Occurrence.failed? at h
  split at h <;> cases h <;> rfl

/-- Where a handler failed, something arrived. -/
theorem firstArrival_isSome {os : List Occurrence} (failed : failuresIn os ≠ []) :
    ∃ e, firstArrival os = some e := by
  obtain ⟨e, isFailure⟩ := List.exists_mem_of_ne_nil _ failed
  obtain ⟨o, member, fails⟩ := List.mem_filterMap.mp isFailure
  have arrives : o.arrivalAt? .client = some e := arrivalAt?_of_failed fails
  refine Option.isSome_iff_exists.mp ?_
  unfold firstArrival
  rw [List.findSome?_isSome_iff]
  exact ⟨o, member, by simp [arrives]⟩

/-- Where nothing was handed in, what arrives first is what failed first. -/
theorem firstArrival_eq_head {os : List Occurrence} (noHandIn : ∀ e, .handedIn .client e ∉ os) :
    firstArrival os = (failuresIn os).head? := by
  induction os with
  | nil => rfl
  | cons o os ih =>
    have rest := ih fun e member => noHandIn e (List.mem_cons_of_mem _ member)
    have same : o.arrivalAt? .client = o.failed? := by
      cases o with
      | ended desk ending =>
        rcases desk with _ | desk
        · rfl
        · cases desk <;> cases ending <;> rfl
      | handedIn desk e =>
        cases desk with
        | client => exact absurd List.mem_cons_self (noHandIn e)
        | spare => rfl
      | _ => rfl
    unfold firstArrival failuresIn at *
    rw [List.findSome?_cons, List.filterMap_cons, same]
    cases o.failed? with
    | none => exact rest
    | some e => rfl

/-- As long as nothing is taken out of the client's catcher, it keeps what it held or what arrives
first. -/
theorem held_run {may : Power → List Pass → Prop} (never : ∀ passes, ¬ may .rethrow passes)
    {p q : Outline} (moves : Relation.ReflTransGen (Move may) p q) :
    ∃ os, q.history = p.history ++ os ∧ q.held .client = (p.held .client).or (firstArrival os) := by
  induction moves with
  | refl => exact ⟨[], by simp, by simp [firstArrival]⟩
  | @tail q r _ last ih =>
    obtain ⟨os, history, held⟩ := ih
    rcases last.at_desk .client with
      ⟨more, history', apart, held'⟩ | ⟨o, e, arrives, history', held'⟩ | ⟨_, -, allowed, -, -⟩
    · refine ⟨os ++ more, by rw [history', history, List.append_assoc], ?_⟩
      rw [held', held, firstArrival_append, firstArrival_apart apart, Option.or_none]
    · refine ⟨os ++ [o, .verdict .client (q.held .client) e],
        by rw [history', history, List.append_assoc], ?_⟩
      have first : firstArrival [o, .verdict .client (q.held .client) e] = some e := by
        unfold firstArrival
        rw [List.findSome?_cons, (arrival_cases arrives).1]
      rw [held', firstArrival_append, first, ← Option.or_assoc, ← held]
      cases q.held .client <;> rfl
    · exact absurd (allowed rfl) (never q.passes)

/-! ### Passes of the client -/

/-- After a pass of the transport, an empty catcher holds what arrived first in it. -/
theorem pump_holds_first {depth : Nat} {s t : State} {r : Except Failure Nat}
    (empty : s.caught = none) (run : pump (perform depth) s = some (r, t)) :
    ∃ os, t.history = s.history ++ os ∧
      (Spares [.pass, .rethrow] os → t.held .client = firstArrival os) := by
  have obliging : Obliging withoutDriving (perform depth) :=
    takeStep_follows (perform_follows depth)
  have allowed : withoutDriving .pass [] := rfl
  obtain ⟨-, os, history, -, moves⟩ := pump_follows obliging allowed s r t run []
  refine ⟨os, history, fun undriven => ?_⟩
  have steps := moves (undriven_modest undriven)
  obtain ⟨more, history', held⟩ := held_run (fun _ never => never) steps
  have same : more = os := List.append_cancel_left (history'.symm.trans history)
  have nothing : s.held .client = none := empty
  rw [← same]
  simpa [State.outline, nothing] using held

/-- A pass over a closed transport fails with the lost connection. What arrived first in it stays in
the catcher. -/
theorem runIterate_closed {depth : Nat} {s t : State} {l : Loopback} {r : Except Failure Nat}
    {os : List Occurrence} (loopback : s.transport = .loopback l) (isClosed : l.isConnected = false)
    (empty : s.caught = none) (run : runIterate (perform depth) s = some (r, t))
    (history : t.history = s.history ++ os) (undriven : Spares [.pass, .rethrow] os) :
    r = .error .disconnected ∧ t.held .client = firstArrival os := by
  cases runIterate_cases run with
  | failed pumped =>
    have result := loopback_pump_result loopback pumped
    obtain ⟨os', history', held⟩ := pump_holds_first empty pumped
    obtain rfl := List.append_cancel_left (history'.symm.trans history)
    rw [isClosed] at result
    cases result
    exact ⟨rfl, held undriven⟩
  | quiet pumped | surfaced pumped =>
    have result := loopback_pump_result loopback pumped
    rw [isClosed] at result
    cases result

/-- A pass over an open transport hands out what arrived first in it. -/
theorem runIterate_open {depth : Nat} {s t : State} {l : Loopback} {r : Except Failure Nat}
    {os : List Occurrence} {first : Failure} (loopback : s.transport = .loopback l)
    (isOpen : l.isConnected = true) (empty : s.caught = none)
    (run : runIterate (perform depth) s = some (r, t)) (history : t.history = s.history ++ os)
    (undriven : Spares [.pass, .rethrow] os) (arrived : firstArrival os = some first) :
    r = .error first ∧ t.caught = none := by
  -- What the client notes after the pass of the transport is no arrival.
  have pending : ∀ {n u more}, pump (perform depth) s = some (.ok n, u) →
      t.history = u.history ++ more → firstArrival more = none →
      u.held .client = some first := by
    intro n u more pumped ended quiet
    obtain ⟨os', history', held⟩ := pump_holds_first empty pumped
    have whole : s.history ++ os = s.history ++ (os' ++ more) := by
      rw [← history, ended, history', List.append_assoc]
    obtain rfl := List.append_cancel_left whole
    rw [firstArrival_append, quiet, Option.or_none] at arrived
    exact (held undriven.left).trans arrived
  cases runIterate_cases run with
  | failed pumped =>
    have result := loopback_pump_result loopback pumped
    rw [isOpen] at result
    cases result
  | quiet pumped nothing _ ended =>
    have holds := pending pumped ended rfl
    rw [nothing] at holds
    cases holds
  | surfaced pumped holds taken ended =>
    have same := pending pumped ended rfl
    rw [holds] at same
    cases same
    exact ⟨rfl, congrFun taken .client⟩

/-- If a handler fails in a pass of the client that began with an empty catcher, the pass hands out
what arrived first and leaves the catcher empty, provided that the transport was open. If it was
closed, the pass fails with the lost connection, and what arrived first stays in the catcher. -/
theorem pass_surfaces_failure_iff_open {depth : Nat} {s t : State} {l : Loopback}
    {r : Except Failure Nat} {os : List Occurrence} {e : Failure} {later : List Failure}
    (loopback : s.transport = .loopback l) (empty : s.caught = none)
    (run : runIterate (perform depth) s = some (r, t)) (history : t.history = s.history ++ os)
    (undriven : Spares [.pass, .rethrow] os) (failed : failuresIn os = e :: later) :
    ∃ first, firstArrival os = some first ∧
      ((∀ e', .handedIn .client e' ∉ os) → first = e) ∧
      (l.isConnected = true → r = .error first ∧ t.caught = none) ∧
      (l.isConnected = false → r = .error .disconnected ∧ t.caught = some first) ∧
      (r = .error e ∧ t.caught = none ↔ l.isConnected = true ∧ first = e) := by
  have nonempty : failuresIn os ≠ [] := by simp [failed]
  obtain ⟨first, arrived⟩ := firstArrival_isSome nonempty
  have isFirst : (∀ e', .handedIn .client e' ∉ os) → first = e := by
    intro noHandIn
    have head := firstArrival_eq_head noHandIn
    rw [arrived, failed] at head
    exact Option.some.inj head
  refine ⟨first, arrived, isFirst, ?_⟩
  cases state : l.isConnected with
  | true =>
    obtain ⟨rfl, caught⟩ := runIterate_open loopback state empty run history undriven arrived
    simp [caught]
  | false =>
    obtain ⟨rfl, held⟩ := runIterate_closed loopback state empty run history undriven
    have caught : t.caught = some first := held.trans arrived
    simp [caught]

/-- A request is queued whose handler fails, the transport is closed, and a pass is made: it does
not hand out what the handler failed with. -/
theorem abandoned_failure_left_behind :
    ∃ asked closed after l,
      perform 2 (.call (.readValue .null) (.handler (.mk "h" false fun _ _ =>
          ([], .error (.user (.plain "boom"))))))
        (.start {} (.loopback { space := .empty, maxPending := 0 }) ⟨fun _ => .epoch, id, 0, 0⟩) =
          some (.started, asked) ∧
      perform 2 .close asked = some (.nothing, closed) ∧
      closed.transport = .loopback l ∧ l.isConnected = false ∧ closed.caught = none ∧
      runIterate (perform 2) closed = some (.error .disconnected, after) ∧
      after.caught = some (.user (.plain "boom")) := by
  let h : Handler := .mk "h" false fun _ _ => ([], .error (.user (.plain "boom")))
  let os : List Occurrence :=
    [.passBegan false [1], .calledBack 1 none, .unanswered 1, .invoking 1 .badInternalError,
      .concluded 0 (.handler h) .badInternalError (.variant .empty),
      .called "h" .badInternalError (some (.variant .empty)),
      .ended (some .client) (.error (.user (.plain "boom"))),
      .failureStored .client (.user (.plain "boom")), .passAbandoned 1]
  have undriven : Spares [.pass, .rethrow] os := by decide
  have run : ∃ asked closed after l,
      perform 2 (.call (.readValue .null) (.handler (.mk "h" false fun _ _ =>
          ([], .error (.user (.plain "boom"))))))
        (.start {} (.loopback { space := .empty, maxPending := 0 }) ⟨fun _ => .epoch, id, 0, 0⟩) =
          some (.started, asked) ∧
      perform 2 .close asked = some (.nothing, closed) ∧
      closed.transport = .loopback l ∧ l.isConnected = false ∧ closed.caught = none ∧
      runIterate (perform 2) closed = some (.error .disconnected, after) ∧
      after.history = closed.history ++ os :=
    ⟨_, _, _, _, rfl, rfl, rfl, rfl, rfl, rfl, rfl⟩
  obtain ⟨asked, closed, after, l, asks, closes, loopback, isClosed, empty, ran, history⟩ := run
  obtain ⟨first, -, isFirst, -, left, -⟩ :=
    pass_surfaces_failure_iff_open loopback empty ran history undriven rfl
  have caught : after.caught = some (.user (.plain "boom")) := by
    rw [(left isClosed).2, isFirst (by simp [os])]
  exact ⟨asked, closed, after, l, asks, closes, loopback, isClosed, empty, ran, caught⟩

end OpcUa.Client
