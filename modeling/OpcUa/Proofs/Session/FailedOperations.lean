import OpcUa.Client.Call
import OpcUa.Proofs.Session.Callback

/-!
How an operation that failed is reported. Its completion is told the status that stands for the
failure, and whether that counts as a failure is decided later, by the severity of the status. The
two agree unless the failure carries a code, or the rejection a status, that is not bad.
-/

namespace OpcUa.Client

open Run

/-- A failure that carries a code, but not a bad one. -/
def Mild (e : Failure) : Prop := ∃ code, e = .badStatus code ∧ code.isBad = false

/-- A future has its outcome, and nobody has taken it. -/
def State.Resolved (s : State) (cell : Nat) (outcome : Except Failure Payload) : Prop :=
  s.cells[cell]? = some (.ready outcome)

/-- Nothing came that the transform could take, or the transform failed. -/
def Adapter.Fails {ρ : Type} (a : Adapter ρ) (response : Option ρ) : Prop :=
  ∀ r, response = some r → ∃ e, (a.transform r).1 = .error e

/-! ### Statuses -/

theorem not_mild_ofStatus {code : StatusCode} (isBad : code.isBad = true) :
    ¬ Mild (.ofStatus code) := by
  rintro ⟨other, same, notBad⟩
  unfold Failure.ofStatus at same
  split at same
  · cases same
  · cases same
    rw [isBad] at notBad
    cases notBad

/-- The status that stands for a failure is bad, but for a mild one. -/
theorem failureStatus_mild (e : Failure) :
    (Adapter.failureStatus e).isBad = false ↔ Mild e := by
  have disconnect : StatusCode.badDisconnect.isBad = true := by decide
  have internal : StatusCode.badInternalError.isBad = true := by decide
  cases e <;> simp [Adapter.failureStatus, Mild, disconnect, internal]

theorem futureOutcome_ok (status : StatusCode) (payload : Payload) :
    futureOutcome status payload = .ok payload ↔ status.isBad = false := by
  unfold futureOutcome
  cases status.isBad <;> simp

/-! ### The library's own transforms -/

section
variable {service : Service} {r : Response service} {e : Failure}

theorem throwIfBad_not_mild {status : StatusCode} (failed : status.throwIfBad = .error e) :
    ¬ Mild e := by
  unfold StatusCode.throwIfBad at failed
  split at failed
  next isBad =>
    cases failed
    exact not_mild_ofStatus isBad
  next => cases failed

theorem single_not_mild (failed : (Response.single r).1 = .error e) : ¬ Mild e := by
  unfold Response.single at failed
  split at failed
  next isBad =>
    cases failed
    exact throwIfBad_not_mild isBad
  next =>
    split at failed
    · cases failed
    · cases failed
      exact not_mild_ofStatus (by decide)

theorem checked_not_mild (failed : (Response.checked r).1 = .error e) : ¬ Mild e := by
  unfold Response.checked at failed
  split at failed
  · split at failed
    next => cases failed
    next isBad =>
      cases failed
      exact throwIfBad_not_mild isBad
  next => exact single_not_mild failed

theorem mapTransform_error {ρ α β : Type} {f : α → β} {t : Transform ρ α} {x : ρ}
    (failed : (Call.mapTransform f t x).1 = .error e) : (t x).1 = .error e := by
  unfold Call.mapTransform at failed
  split at failed
  next => cases failed
  next given =>
    cases failed
    rw [given]

theorem single_call_not_mild {item : service.Item} {view : service.Result → Payload}
    {fallback : Payload}
    (failed : ((Call.single service item view fallback).transform r).1 = .error e) : ¬ Mild e :=
  checked_not_mild (mapTransform_error failed)

end

/-! ### Futures -/

section
variable {act : Act} {cell : Nat} {status : StatusCode} {payload : Payload}

theorem takeOutcome_resolved {outcome : Except Failure Payload} {s : State}
    (resolved : s.Resolved cell outcome) :
    ∃ t, takeOutcome cell s = some (some outcome, t) := by
  have found : getCell cell s = some (.ready outcome, s) := by
    show some ((s.cells[cell]?).getD .spent, s) = _
    rw [resolved]
    rfl
  exact ⟨_, bind_eq found⟩

theorem wait_resolved {outcome : Except Failure Payload} {s : State} (passes : Nat)
    (resolved : s.Resolved cell outcome) : ∃ t, wait passes act cell s = some (outcome, t) := by
  obtain ⟨start, u, looked, same⟩ :
      ∃ start u, steadyTime s = some (start, u) ∧ u.Resolved cell outcome :=
    ⟨_, _, rfl, resolved⟩
  obtain ⟨t, took⟩ := takeOutcome_resolved same
  refine ⟨t, ?_⟩
  have reached : wait passes act cell s =
      waitFor act cell (deadline? start u.config.requestTimeout) passes u := bind_eq looked
  rw [reached]
  cases passes <;> exact bind_eq took

theorem concludes_resolves {ρ : Type} {a : Adapter ρ} {s t : State}
    (concludes : Concludes act a status payload s t) (isFuture : a.completion = .future cell)
    (known : cell < s.cells.size) : t.Resolved cell (futureOutcome status payload) := by
  obtain @⟨u, v, outcome, ⟨os, rfl⟩, told, after⟩ := concludes
  rw [isFuture] at told
  cases invoke_iff.mp told
  rw [after.rest]
  simp [State.Resolved, known]

end

/-! ### Failed operations -/

section
variable {act : Act}

/-- A callback that fails tells its completion the fallback, and a status that is not bad only if
the transform failed mildly. -/
theorem failed_receive_concludes {ρ : Type} {a : Adapter ρ} {id : UInt32}
    {response rest : Option ρ} {s t : State} (failed : a.Fails response)
    (run : a.receive act id response s = some (rest, t)) :
    ∃ status u, takeSteps act (a.stepsFor response) s = some ((), u) ∧
      Concludes act a status a.fallback u t ∧
      (status.isBad = false ↔ ∃ r e, response = some r ∧ (a.transform r).1 = .error e ∧ Mild e) := by
  obtain ⟨-, status, payload, u, told, took, concludes⟩ := receive_concludes run
  cases response with
  | none =>
    obtain ⟨rfl, rfl⟩ := told.unique .absent
    have isBad : StatusCode.badInternalError.isBad = true := by decide
    exact ⟨_, u, took, concludes, by simp [isBad]⟩
  | some r =>
    obtain ⟨e, error⟩ := failed r rfl
    have given : a.transform r = (.error e, (a.transform r).2) := Prod.ext error rfl
    obtain ⟨rfl, rfl⟩ := told.unique (told_of_failed given)
    refine ⟨_, u, took, concludes, ?_⟩
    rw [failureStatus_mild]
    constructor
    · exact fun mild => ⟨r, e, rfl, error, mild⟩
    · rintro ⟨_, e', ⟨⟩, error', mild⟩
      rw [error] at error'
      cases error'
      exact mild

/-- A rejected submission tells its completion the status of the rejection, whatever it is. -/
theorem refused_submit_concludes {c : Call} {completion : Completion} {status : StatusCode}
    {s t : State} (refuses : s.transport.Refuses status)
    (run : submit act c completion s = some ((), t)) :
    ∃ u, u.cells = s.cells ∧
      Concludes act (c.adapter s.operations completion) status c.fallback u t := by
  obtain ⟨u, -, cells, same⟩ := @submit_refused act c completion status s refuses
  rw [same] at run
  exact ⟨u, cells, conclude_concludes run⟩

/-- A synchronous call that is rejected makes no pass, and gives what a future shows of the
rejection. -/
theorem refused_sync_call {c : Call} {status : StatusCode} {s : State} (passes : Nat)
    (refuses : s.transport.Refuses status) :
    ∃ t, dispatch passes act .sync (.call c) s =
      some (.outcome (futureOutcome status c.fallback), t) := by
  obtain ⟨u, added, refuses', known⟩ : ∃ u, newCell s = some (s.cells.size, u) ∧
      u.transport.Refuses status ∧ s.cells.size < u.cells.size :=
    ⟨_, rfl, refuses, by simp⟩
  obtain ⟨v, -, cells, same⟩ := @submit_refused act c (.future s.cells.size) status u refuses'
  obtain ⟨w, rejected⟩ : ∃ w,
      (c.adapter u.operations (.future s.cells.size)).reject act status v = some ((), w) :=
    conclude_ends ⟨_, invoke_iff.mpr (.future _)⟩
  have resolved : w.Resolved s.cells.size (futureOutcome status c.fallback) :=
    concludes_resolves (conclude_concludes rejected) rfl (cells ▸ known)
  obtain ⟨t, waited⟩ := wait_resolved passes resolved
  have started : (Initiation.call c).start act (.future s.cells.size) u = some ((), w) :=
    same.trans rejected
  exact ⟨t, (bind_eq added).trans ((bind_eq started).trans (bind_eq waited))⟩

end

/-- An operation that fails tells its completion the fallback, with a bad status unless the
transform or the rejection gives another. A future shows a failure exactly if the status is bad. -/
theorem failed_operation_reported_by_severity {service : Service} {response : Option AnyResponse}
    {typed : Option (Response service)} {act : Act} {a : Adapter (Response service)} {id : UInt32}
    {s t : State} (fitting : Fitting service response typed) (failed : a.Fails typed)
    (run : (Receiver.adapter service a).receive act id response s = some ((), t)) :
    (∃ status u, takeSteps act (a.stepsFor typed) s = some ((), u) ∧
        Concludes act a status a.fallback u t ∧
        (status.isBad = false ↔
          ∃ r e, typed = some r ∧ (a.transform r).1 = .error e ∧ Mild e) ∧
        ∀ cell, a.completion = .future cell → cell < u.cells.size →
          t.Resolved cell (futureOutcome status a.fallback)) ∧
      (∀ (c : Call) completion status u v, u.transport.Refuses status →
        submit act c completion u = some ((), v) →
        (∃ w, Concludes act (c.adapter u.operations completion) status c.fallback w v) ∧
        ∀ cell, completion = .future cell → cell < u.cells.size →
          v.Resolved cell (futureOutcome status c.fallback)) ∧
      (∀ (c : Call) status passes u, u.transport.Refuses status →
        ∃ v, dispatch passes act .sync (.call c) u =
          some (.outcome (futureOutcome status c.fallback), v)) ∧
      (∀ cell outcome passes u, u.Resolved cell outcome →
        ∃ v, wait passes act cell u = some (outcome, v)) ∧
      (∀ status payload, futureOutcome status payload = .ok payload ↔ status.isBad = false) ∧
      ∀ (other : Service) (item : other.Item) view fallback r e,
        ((Call.single other item view fallback).transform r).1 = .error e → ¬ Mild e := by
  refine ⟨?_, ?_, fun _ _ passes _ => refused_sync_call passes,
    fun _ _ passes _ => wait_resolved passes, futureOutcome_ok,
    fun _ _ _ _ _ _ => single_call_not_mild⟩
  · obtain ⟨rest, received⟩ := (receive_fitting fitting s t).mp run
    obtain ⟨status, u, took, concludes, mild⟩ := failed_receive_concludes failed received
    exact ⟨status, u, took, concludes, mild, fun _ => concludes_resolves concludes⟩
  · intro c completion status u v refuses run
    obtain ⟨w, cells, concludes⟩ := refused_submit_concludes refuses run
    refine ⟨⟨w, concludes⟩, fun cell isFuture known => ?_⟩
    exact concludes_resolves concludes isFuture (cells ▸ known)

/-- A transform fails with an uncertain status, and the future shows the fallback as a value. -/
theorem uncertain_failure_shown_as_value :
    let a : Adapter (Response .read) :=
      { operation := none, desk := .client
        transform := fun r => (.error (.badStatus .uncertainReferenceNotDeleted), r)
        fallback := .nothing, completion := .future 0, responseType := responseType .read }
    let s : State :=
      { State.start {} (.loopback { space := .empty, maxPending := 0 })
          ⟨fun _ => .epoch, id, 0, 0⟩ with cells := #[.waiting] }
    a.Fails (some {}) ∧
      ∃ t, (Receiver.adapter .read a).receive (perform 1) 1 (some ⟨.read, {}⟩) s = some ((), t) ∧
        t.Resolved 0 (.ok .nothing) := by
  intro a s
  have failed : a.Fails (some {}) := fun r _ => ⟨_, rfl⟩
  obtain ⟨t, run⟩ : ∃ t,
      (Receiver.adapter .read a).receive (perform 1) 1 (some ⟨.read, {}⟩) s = some ((), t) :=
    ⟨_, rfl⟩
  obtain ⟨⟨status, u, took, -, mild, resolves⟩, -⟩ :=
    failed_operation_reported_by_severity (.expected {}) failed run
  obtain ⟨-, rfl⟩ := pure_some took
  have notBad : status.isBad = false := mild.mpr ⟨{}, _, rfl, rfl, _, rfl, by decide⟩
  have shown : futureOutcome status .nothing = .ok .nothing := (futureOutcome_ok _ _).mpr notBad
  have resolved := resolves 0 rfl (by decide)
  exact ⟨failed, t, run, shown ▸ resolved⟩

end OpcUa.Client
