import OpcUa.Proofs.Session.Ledger
import OpcUa.Proofs.Session.Tally
import OpcUa.Proofs.Session.Tokens

/-!
Which requests the loopback transport takes. The queue keeps to its limit at every moment of a run,
what becomes of a submission depends on the moment alone, and a rejection changes nothing but that
a fault that was set up is used up.
-/

namespace OpcUa.Client

open Run

def Occurrence.isArming : Occurrence → Bool
  | armed _ => true
  | _ => false

/-- What the admission of requests keeps to in a history. The ledger before an occurrence tells what
is queued and set up at that moment. -/
structure Admitted (limit : Nat) (history : List Occurrence) : Prop where
  bounded : ∀ before after, history = before ++ after → 0 < limit →
    (ledger before).queue.length ≤ limit
  accepts : ∀ before o after, history = before ++ o :: after → o.isSubmission →
    (o.isAccepted ↔
      (ledger before).failNext = none ∧ (ledger before).isConnected = true ∧
        (limit = 0 ∨ (ledger before).queue.length < limit))
  rejects : ∀ before service status after, history = before ++ .refused service status :: after →
    (ledger before).failNext = some status ∨
      (ledger before).failNext = none ∧
        ((ledger before).isConnected = false ∧ status = .badDisconnect ∨
          (ledger before).isConnected = true ∧ 0 < limit ∧
            (ledger before).queue.length = limit ∧ status = .badTooManyOperations)
  /-- The first submission after a rejection was set up is rejected with its status. -/
  first : ∀ before status between o after,
    history = before ++ .armed status :: (between ++ o :: after) →
    (∀ o' ∈ between, o'.isSubmission = false ∧ o'.isArming = false) → o.isSubmission →
    ∃ service, o = .refused service status
  /-- Once something was submitted, no rejection is set up until one is set up anew. -/
  spent : ∀ before o between after, history = before ++ o :: (between ++ after) →
    o.isSubmission → (∀ o' ∈ between, o'.isArming = false) →
    (ledger (before ++ o :: between)).failNext = none

/-! ### Along a history -/

namespace Ledger

variable {limit : Nat} {g : Ledger} {o : Occurrence}

theorem enter_bounded (isLimited : 0 < limit) (bounded : g.queue.length ≤ limit)
    (admits : g.Admits limit o) : (g.enter o).queue.length ≤ limit := by
  cases o with
  | accepted id service body =>
    obtain ⟨-, -, room⟩ := verdict_accepts.mp admits
    have added : (g.enter (.accepted id service body)).queue.length = g.queue.length + 1 := by
      simp [enter]
    omega
  | passBegan isConnected ids => exact Nat.zero_le limit
  | _ => exact bounded

theorem foldl_bounded (isLimited : 0 < limit) {os : List Occurrence}
    (bounded : g.queue.length ≤ limit) (admits : g.AdmitsAll limit os) :
    (os.foldl enter g).queue.length ≤ limit := by
  induction os generalizing g with
  | nil => exact bounded
  | cons o os ih => exact ih (enter_bounded isLimited bounded admits.1) admits.2

theorem enter_submission (h : o.isSubmission) : (g.enter o).failNext = none := by
  cases o with
  | accepted | refused => rfl
  | _ => cases h

theorem enter_unarmed (h : o.isArming = false) (unarmed : g.failNext = none) :
    (g.enter o).failNext = none := by
  cases o with
  | armed => cases h
  | accepted | refused => rfl
  | _ => exact unarmed

theorem enter_idle (submits : o.isSubmission = false) (arms : o.isArming = false) :
    (g.enter o).failNext = g.failNext := by
  cases o with
  | accepted | refused => cases submits
  | armed => cases arms
  | _ => rfl

theorem foldl_unarmed {os : List Occurrence} (h : ∀ o ∈ os, o.isArming = false)
    (unarmed : g.failNext = none) : (os.foldl enter g).failNext = none := by
  induction os generalizing g with
  | nil => exact unarmed
  | cons o os ih =>
    refine ih (fun o' member => h o' (List.mem_cons_of_mem _ member)) ?_
    exact enter_unarmed (h o List.mem_cons_self) unarmed

theorem foldl_idle {os : List Occurrence}
    (h : ∀ o ∈ os, o.isSubmission = false ∧ o.isArming = false) :
    (os.foldl enter g).failNext = g.failNext := by
  induction os generalizing g with
  | nil => rfl
  | cons o os ih =>
    obtain ⟨submits, arms⟩ := h o List.mem_cons_self
    rw [List.foldl_cons, ih fun o' member => h o' (List.mem_cons_of_mem _ member)]
    exact enter_idle submits arms

end Ledger

theorem admitted_of_lawful {limit : Nat} {history : List Occurrence}
    (lawful : Ledger.AdmitsAll limit {} history) : Admitted limit history := by
  have bounded : ∀ before after, history = before ++ after → 0 < limit →
      (ledger before).queue.length ≤ limit := by
    intro before after split isLimited
    rw [split] at lawful
    exact Ledger.foldl_bounded isLimited (Nat.zero_le limit) (Ledger.admitsAll_append.mp lawful).1
  refine ⟨bounded, ?_, ?_, ?_, ?_⟩
  · intro before o after split submits
    have admits := Ledger.admits_at lawful split
    cases o with
    | accepted id service body => simpa [Occurrence.isAccepted] using Ledger.verdict_accepts.mp admits
    | refused service status =>
      have rejects : (ledger before).verdict limit = some status := admits
      rw [← Ledger.verdict_accepts, rejects]
      simp [Occurrence.isAccepted]
    | _ => cases submits
  · intro before service status after split
    have admits : (ledger before).verdict limit = some status := Ledger.admits_at lawful split
    rcases Ledger.verdict_rejects.mp admits with armed | ⟨unarmed, isClosed | ⟨isOpen, isFull⟩⟩
    · exact .inl armed
    · exact .inr ⟨unarmed, .inl isClosed⟩
    · obtain ⟨isLimited, full, isTooMany⟩ := isFull
      have fits := bounded before _ split isLimited
      exact .inr ⟨unarmed, .inr ⟨isOpen, isLimited, by omega, isTooMany⟩⟩
  · intro before status between o after split idle submits
    -- Nothing in between submits or sets up, so the rejection is still set up.
    have armed : (ledger (before ++ .armed status :: between)).failNext = some status := by
      have kept := Ledger.foldl_idle (g := (ledger before).enter (.armed status)) idle
      rw [ledger, List.foldl_append, List.foldl_cons]
      exact kept
    have whole : history = (before ++ .armed status :: between) ++ o :: after := by
      rw [split]
      simp
    have admits := Ledger.admits_at lawful whole
    cases o with
    | accepted id service body =>
      obtain ⟨unarmed, -⟩ := Ledger.verdict_accepts.mp admits
      rw [armed] at unarmed
      cases unarmed
    | refused service given =>
      rcases Ledger.verdict_rejects.mp admits with same | ⟨unarmed, -⟩
      · rw [armed] at same
        cases same
        exact ⟨service, rfl⟩
      · rw [armed] at unarmed
        cases unarmed
    | _ => cases submits
  · intro before o between after split submits unarmed
    rw [ledger, List.foldl_append, List.foldl_cons]
    exact Ledger.foldl_unarmed unarmed (Ledger.enter_submission submits)

/-! ### Rejections -/

/-- What a loopback transport says to the next submission: `none` if it accepts it. -/
def Loopback.verdict (l : Loopback) : Option StatusCode := (l.ledger []).verdict l.maxPending

theorem verdict_rejecting {l : Loopback} {status : StatusCode} (verdict : l.verdict = some status) :
    l.Rejects status := by
  intro s body r
  rcases submitted : l.submit s body r with ⟨result, l'⟩
  have said := submit_verdict submitted []
  cases result with
  | ok id =>
    have accepted : l.verdict = none := said
    rw [verdict] at accepted
    cases accepted
  | error other =>
    have rejected : l.verdict = some other := said
    rw [verdict] at rejected
    cases rejected
    rw [Loopback.submit_error submitted]

theorem verdict_accepting {l : Loopback} (verdict : l.verdict = none) : l.Accepts := by
  rcases l.submit_cases with ⟨status, rejects⟩ | ⟨-, accepts⟩
  · have said := submit_verdict (rejects .read none .probe) []
    have rejected : l.verdict = some status := said
    rw [verdict] at rejected
    cases rejected
  · exact accepts

theorem raw_rejected {act : Act} {passes : Nat} {s : State} {l : Loopback} {status : StatusCode}
    (loopback : s.transport = .loopback l) (rejects : l.Rejects status) (service : Service)
    (body : Option AnyRequest) (h : Option Handler) :
    perform1 passes act (.submitRaw service body h) s = some (.refused status,
      { s with
        transport := .loopback { l with failNext := none }
        journal := s.journal.push (.refused service status) }) := by
  have handed : handOver service body (rawReceiver h) s = some (.error (status, false),
      { s with
        transport := .loopback { l with failNext := none }
        journal := s.journal.push (.refused service status) }) := by
    refine handOver_error (e := (status, false)) ?_
    unfold submitTo
    rw [loopback]
    dsimp only
    rw [rejects]
  have dropped (t : State) : (rawReceiver h).drop t = some ((), t) := by
    cases h <;> rfl
  exact (bind_eq handed).trans (bind_eq (dropped _))

/-! ### The contract -/

/-- The loopback transport admits requests by the rules of its ledger at every moment of a run,
within handlers too. A rejection changes nothing of it but the fault that was set up. -/
theorem admission_controlled {depth limit : Nat} {config : Config} {clocks : Clocks}
    {space : AddressSpace} {steps : List Step} {reports : List Report}
    (run : play depth (.start config (.loopback { space, maxPending := limit }) clocks) steps =
      some reports) :
    (∀ report ∈ reports, Admitted limit report.after.history ∧ report.after.Lawful limit []) ∧
      (∀ passes depth step s answer t, s.Lawful limit passes →
        perform depth step s = some (answer, t) →
        Admitted limit t.history ∧ t.Lawful limit passes) ∧
      ∀ s l act, s.transport = .loopback l →
        (l.verdict = none → ∀ (k : Call) c,
          submit act k c s = some ((), k.accepted c l s)) ∧
        ∀ status, l.verdict = some status →
          (∀ (k : Call) c,
            (k.refused c status l s).transport = .loopback { l with failNext := none } ∧
            (∀ t, submit act k c s = some ((), t) →
              Concludes act (k.adapter s.operations c) status k.fallback (k.refused c status l s)
                t) ∧
            ((∃ r, c.invoke act (k.adapter s.operations c).occasion status k.fallback
                (k.refused c status l s) = some r) →
              ∃ t, submit act k c s = some ((), t)) ∧
            ∀ transform during,
              submit act { k with transform, during } c s = submit act k c s) ∧
          ∀ passes service body h, perform1 passes act (.submitRaw service body h) s =
            some (.refused status,
              { s with
                transport := .loopback { l with failNext := none }
                journal := s.journal.push (.refused service status) }) := by
  refine ⟨?_, ?_, ?_⟩
  · intro report member
    have lawful := playFrom_lawful (start_lawful config clocks space limit) run report member
    exact ⟨admitted_of_lawful lawful.lawful, lawful⟩
  · intro passes depth step s answer t before performed
    have lawful := perform_lawful before performed
    exact ⟨admitted_of_lawful lawful.lawful, lawful⟩
  · intro s l act loopback
    refine ⟨fun accepted k c => submit_accepted loopback (verdict_accepting accepted), ?_⟩
    intro status rejected
    have rejects := verdict_rejecting rejected
    refine ⟨fun k c => ?_, fun _ => raw_rejected loopback rejects⟩
    have reached := @submit_rejected act k c l s loopback status rejects
    refine ⟨rfl, ?_, ?_, ?_⟩
    · intro t submitted
      rw [reached] at submitted
      exact conclude_concludes submitted
    · intro ends
      rw [reached]
      exact conclude_ends ends
    · intro transform during
      rw [reached, submit_rejected loopback rejects]
      rfl

/-- Two requests may be queued. Of five more, one meets a fault that was set up, one the closed
transport, and one, which a handler submits, the full queue. On a closed transport an operation is
concluded at once. -/
theorem rejected_for_each_reason :
    let clocks : Clocks := ⟨fun _ => .epoch, id, 0, 0⟩
    let l : Loopback := { space := .empty, isConnected := false }
    let closed := State.start {} (.loopback l) clocks
    let k : Call := .readValue .null
    ∃ reports,
      play 4 (.start {} (.loopback { space := .empty, maxPending := 2 }) clocks)
        [.call k (.handler (.mk "again" false fun _ _ =>
            ([.call k .detached, .call k .detached, .call k .detached], .done))),
          .failNextSubmit .badTimeout, .call k .detached, .close, .call k .detached, .reopen,
          .run] = some reports ∧
      (reports.map fun report =>
        (report.after.loopback.queue.length, report.after.stats.rejected)) =
        [(1, 0), (1, 0), (1, 1), (1, 1), (1, 2), (1, 2), (2, 3)] ∧
      (∀ report ∈ reports, Admitted 2 report.after.history ∧ report.after.Lawful 2 []) ∧
      ∃ t, submit (perform 1) k .nobody closed = some ((), t) ∧
        Concludes (perform 1) (k.adapter 0 .nobody) .badDisconnect k.fallback
          (k.refused .nobody .badDisconnect l closed) t := by
  intro clocks l closed k
  refine ends_well
    (Q := fun reports => (reports.map fun report =>
        (report.after.loopback.queue.length, report.after.stats.rejected)) =
        [(1, 0), (1, 0), (1, 1), (1, 1), (1, 2), (1, 2), (2, 3)])
    (by decide +kernel) fun _ run counts => ?_
  obtain ⟨admits, -, decides⟩ := admission_controlled run
  obtain ⟨-, rejects⟩ := decides closed l (perform 1) rfl
  obtain ⟨-, concludes, ends, -⟩ := (rejects .badDisconnect rfl).1 k .nobody
  obtain ⟨t, submitted⟩ := ends ⟨_, rfl⟩
  exact ⟨counts, admits, t, submitted, concludes t submitted⟩

end OpcUa.Client
