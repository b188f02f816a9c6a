import OpcUa.Proofs.Session.Catcher

/-!
The loopback transport as its history shows it. A ledger is read off what has happened: whether the
transport is open, which rejection is set up, which requests are queued and which passes are going
on. It tells what may happen next, at every moment of a run, within handlers and between the
requests of a pass too; and whatever happens is what the ledger admits.
-/

namespace OpcUa.Client

def Occurrence.isSubmission : Occurrence → Bool
  | accepted .. | refused .. => true
  | _ => false

structure Ledger where
  isConnected : Bool := true
  failNext : Option StatusCode := none
  queue : List UInt32 := []
  /-- The passes that are going on, the innermost first: whether the transport was open when it
  began, and the requests that it has still to come to. -/
  passes : List (Bool × List UInt32) := []
deriving DecidableEq, Repr

namespace Ledger

/-- The innermost pass comes to its next request. -/
def comeTo : List (Bool × List UInt32) → List (Bool × List UInt32)
  | (isConnected, _ :: rest) :: outer => (isConnected, rest) :: outer
  | passes => passes

def enter (g : Ledger) : Occurrence → Ledger
  | .armed status => { g with failNext := some status }
  | .accepted id _ _ => { g with failNext := none, queue := g.queue ++ [id] }
  | .refused _ _ => { g with failNext := none }
  | .closed _ => { g with isConnected := false }
  | .reopened => { g with isConnected := true }
  | .passBegan isConnected ids => { g with queue := [], passes := (isConnected, ids) :: g.passes }
  | .calledBack _ _ => { g with passes := comeTo g.passes }
  | .passServed _ | .passAbandoned _ => { g with passes := g.passes.tail }
  | _ => g

/-- What a submission comes to where so many requests may be queued: `none` if it is accepted. A
rejection that is set up comes first, then a lost connection, then a full queue. -/
def verdict (limit : Nat) (g : Ledger) : Option StatusCode :=
  match g.failNext with
  | some status => some status
  | none =>
    if !g.isConnected then some .badDisconnect
    else if limit ≠ 0 ∧ limit ≤ g.queue.length then some .badTooManyOperations
    else none

def Admits (limit : Nat) (g : Ledger) : Occurrence → Prop
  | .accepted _ _ _ => g.verdict limit = none
  | .refused _ status => g.verdict limit = some status
  | .passBegan isConnected ids => isConnected = g.isConnected ∧ ids = g.queue
  | .served id _ _ _ => ∃ rest outer, g.passes = (true, id :: rest) :: outer
  | .calledBack id response => ∃ isConnected rest outer,
      g.passes = (isConnected, id :: rest) :: outer ∧ (isConnected = false → response = none)
  | .passServed _ => ∃ outer, g.passes = (true, []) :: outer
  | .passAbandoned _ => ∃ outer, g.passes = (false, []) :: outer
  | _ => True

def AdmitsAll (limit : Nat) : Ledger → List Occurrence → Prop
  | _, [] => True
  | g, o :: os => g.Admits limit o ∧ AdmitsAll limit (g.enter o) os

end Ledger

def ledger (history : List Occurrence) : Ledger := history.foldl Ledger.enter {}

/-- The ledger of a loopback transport within given passes. -/
def Loopback.ledger (l : Loopback) (passes : List Pass) : Ledger where
  isConnected := l.isConnected
  failNext := l.failNext
  queue := l.queue.map Queued.id
  passes := passes.map fun pass => (pass.isConnected, pass.rest.map Queued.id)

namespace Ledger

variable {limit : Nat} {g : Ledger} {o : Occurrence}

theorem enter_plain (h : o.isPlain) : g.enter o = g := by
  cases o <;> first | rfl | cases h

theorem admits_plain (h : o.isPlain) : g.Admits limit o := by
  cases o <;> first | exact True.intro | cases h

theorem enter_desk {desk : Desk} (h : o.desk? = some desk) : g.enter o = g := by
  cases o <;> first | rfl | cases h

theorem admits_desk {desk : Desk} (h : o.desk? = some desk) : g.Admits limit o := by
  cases o <;> first | exact True.intro | cases h

theorem verdict_accepts :
    g.verdict limit = none ↔
      g.failNext = none ∧ g.isConnected = true ∧ (limit = 0 ∨ g.queue.length < limit) := by
  unfold verdict
  cases g.failNext with
  | some status => simp
  | none =>
    cases g.isConnected with
    | false => simp
    | true =>
      simp only [Bool.not_true, Bool.false_eq_true, ↓reduceIte, true_and]
      split
      · simp only [reduceCtorEq, false_iff]
        omega
      · simp only [true_iff]
        omega

theorem verdict_rejects {status : StatusCode} :
    g.verdict limit = some status ↔
      g.failNext = some status ∨
        g.failNext = none ∧
          (g.isConnected = false ∧ status = .badDisconnect ∨
            g.isConnected = true ∧ 0 < limit ∧ limit ≤ g.queue.length ∧
              status = .badTooManyOperations) := by
  unfold verdict
  cases g.failNext with
  | some armed => simp
  | none =>
    cases g.isConnected with
    | false => simp [eq_comm]
    | true =>
      simp only [Bool.not_true, Bool.false_eq_true, ↓reduceIte]
      split
      · simp only [Option.some.injEq, reduceCtorEq, false_or, true_and, false_and]
        constructor
        · rintro rfl
          exact ⟨by omega, by omega, rfl⟩
        · rintro ⟨-, -, rfl⟩
          rfl
      · simp only [reduceCtorEq, false_or, true_and, false_and, false_iff]
        omega

/-! ### Histories -/

theorem admitsAll_append {os os' : List Occurrence} :
    g.AdmitsAll limit (os ++ os') ↔
      g.AdmitsAll limit os ∧ (os.foldl enter g).AdmitsAll limit os' := by
  induction os generalizing g with
  | nil => simp [AdmitsAll]
  | cons o os ih => simp [AdmitsAll, ih, and_assoc]

theorem foldl_plain {os : List Occurrence} (h : ∀ o ∈ os, o.isPlain) : os.foldl enter g = g := by
  induction os generalizing g with
  | nil => rfl
  | cons o os ih =>
    rw [List.foldl_cons, enter_plain (h o List.mem_cons_self)]
    exact ih fun o member => h o (List.mem_cons_of_mem _ member)

theorem admitsAll_plain {os : List Occurrence} (h : ∀ o ∈ os, o.isPlain) :
    g.AdmitsAll limit os := by
  induction os generalizing g with
  | nil => trivial
  | cons o os ih =>
    refine ⟨admits_plain (h o List.mem_cons_self), ?_⟩
    exact ih fun o member => h o (List.mem_cons_of_mem _ member)

theorem admits_at {history before after : List Occurrence}
    (lawful : AdmitsAll limit {} history) (split : history = before ++ o :: after) :
    (ledger before).Admits limit o := by
  rw [split] at lawful
  exact (admitsAll_append.mp lawful).2.1

end Ledger

theorem ledger_snoc (before : List Occurrence) (o : Occurrence) :
    ledger (before ++ [o]) = (ledger before).enter o := by
  simp [ledger]

/-! ### Submissions -/

theorem submit_verdict {l l' : Loopback} {s : Service} {body : Option AnyRequest} {r : Receiver}
    {verdict : Except StatusCode UInt32} (h : l.submit s body r = (verdict, l'))
    (passes : List Pass) :
    (l.ledger passes).verdict l.maxPending =
      match verdict with
      | .ok _ => none
      | .error status => some status := by
  unfold Loopback.submit at h
  unfold Ledger.verdict
  cases armed : l.failNext with
  | some status =>
    simp only [armed] at h
    cases h
    simp [Loopback.ledger, armed]
  | none =>
    simp only [armed] at h
    simp only [Loopback.ledger, armed, List.length_map]
    cases connected : l.isConnected with
    | false =>
      simp only [connected, Bool.not_false, ↓reduceIte] at h
      cases h
      rfl
    | true =>
      simp only [connected, Bool.not_true, Bool.false_eq_true, ↓reduceIte] at h ⊢
      have full : l.isFull = true ↔ l.maxPending ≠ 0 ∧ l.maxPending ≤ l.queue.length := by
        simp [Loopback.isFull]
      by_cases isFull : l.isFull = true
      · simp only [isFull, ↓reduceIte] at h
        cases h
        simp [full.mp isFull]
      · simp only [isFull, Bool.false_eq_true, ↓reduceIte] at h
        cases h
        have hasRoom : ¬ (l.maxPending ≠ 0 ∧ l.maxPending ≤ l.queue.length) := by
          rwa [← full]
        simp only [hasRoom, ↓reduceIte]

theorem submit_ledger {l l' : Loopback} {s : Service} {body : Option AnyRequest} {r : Receiver}
    {id : UInt32} (h : l.submit s body r = (.ok id, l')) (passes : List Pass) :
    l'.ledger passes = (l.ledger passes).enter (.accepted id s body) ∧
      l'.maxPending = l.maxPending := by
  have unarmed : l.failNext = none :=
    (Ledger.verdict_accepts.mp (submit_verdict h passes)).1
  obtain ⟨rfl, rfl⟩ := Loopback.submit_ok h
  simp [Loopback.ledger, Ledger.enter, unarmed]

theorem reject_ledger {l l' : Loopback} {s : Service} {body : Option AnyRequest} {r : Receiver}
    {status : StatusCode} (h : l.submit s body r = (.error status, l')) (passes : List Pass) :
    l'.ledger passes = (l.ledger passes).enter (.refused s status) ∧
      l'.maxPending = l.maxPending := by
  obtain rfl := Loopback.submit_error h
  simp [Loopback.ledger, Ledger.enter]

/-! ### Moves -/

theorem Loopback.ledger_top (l : Loopback) {passes outer : List Pass} {isConnected : Bool}
    {ids : List UInt32} {rest : List Queued}
    (within : passes = ⟨isConnected, ids, rest⟩ :: outer) :
    (l.ledger passes).passes = (isConnected, rest.map Queued.id) :: (l.ledger outer).passes := by
  rw [within]
  rfl

/-- The ledger of what has happened is that of the transport, and it admitted all of it. -/
structure Entered (limit : Nat) (p : Outline) (l : Loopback) : Prop where
  loopback : p.transport = .loopback l
  limited : l.maxPending = limit
  same : ledger p.history = l.ledger p.passes
  lawful : Ledger.AdmitsAll limit {} p.history

section
variable {may : Power → List Pass → Prop} {limit : Nat} {p q : Outline} {l l' : Loopback}

theorem Entered.grow (h : Entered limit p l) {os : List Occurrence}
    (loopback : q.transport = .loopback l') (limited : l'.maxPending = l.maxPending)
    (history : q.history = p.history ++ os)
    (same : os.foldl Ledger.enter (l.ledger p.passes) = l'.ledger q.passes)
    (lawful : (l.ledger p.passes).AdmitsAll limit os) : Entered limit q l' := by
  refine ⟨loopback, limited.trans h.limited, ?_, ?_⟩
  · rw [history, ← same, ← h.same]
    simp [ledger]
  · rw [history, Ledger.admitsAll_append]
    refine ⟨h.lawful, ?_⟩
    have here : p.history.foldl Ledger.enter {} = l.ledger p.passes := h.same
    rw [here]
    exact lawful

/-- What tells nothing of the transport leaves the ledger as it is. -/
theorem Entered.apart (h : Entered limit p l) {os : List Occurrence}
    (transport : q.transport = p.transport) (passes : q.passes = p.passes)
    (history : q.history = p.history ++ os)
    (same : os.foldl Ledger.enter (l.ledger p.passes) = l.ledger p.passes)
    (lawful : (l.ledger p.passes).AdmitsAll limit os) : Entered limit q l :=
  h.grow (transport.trans h.loopback) rfl history (passes ▸ same) lawful

theorem Entered.move (h : Entered limit p l) (m : Move may p q) : ∃ l', Entered limit q l' := by
  cases m with
  | plain isPlain =>
    exact ⟨l, h.apart rfl rfl rfl (Ledger.enter_plain isPlain) ⟨Ledger.admits_plain isPlain, trivial⟩⟩
  | @accept k k' s body r id c here taken own =>
    obtain rfl := loopback_inj here h.loopback
    obtain ⟨entered, limited⟩ := submit_ledger taken p.passes
    refine ⟨k', h.grow rfl limited rfl entered.symm ⟨trivial, ?_, trivial, trivial⟩⟩
    rw [← h.limited]
    exact submit_verdict taken p.passes
  | @refuse k k' s body r status c here refused own =>
    obtain rfl := loopback_inj here h.loopback
    obtain ⟨entered, limited⟩ := reject_ledger refused p.passes
    refine ⟨k', h.grow rfl limited rfl entered.symm ⟨trivial, ?_, trivial, trivial⟩⟩
    rw [← h.limited]
    exact submit_verdict refused p.passes
  | @acceptOther k k' s body r id here taken own =>
    obtain rfl := loopback_inj here h.loopback
    obtain ⟨entered, limited⟩ := submit_ledger taken p.passes
    refine ⟨k', h.grow rfl limited rfl entered.symm ⟨?_, trivial⟩⟩
    rw [← h.limited]
    exact submit_verdict taken p.passes
  | @refuseOther k k' s body r status here refused own =>
    obtain rfl := loopback_inj here h.loopback
    obtain ⟨entered, limited⟩ := reject_ledger refused p.passes
    refine ⟨k', h.grow rfl limited rfl entered.symm ⟨?_, trivial⟩⟩
    rw [← h.limited]
    exact submit_verdict refused p.passes
  | @beginPass k here allowed =>
    obtain rfl := loopback_inj here h.loopback
    exact ⟨_, h.grow rfl rfl rfl rfl ⟨⟨rfl, rfl⟩, trivial⟩⟩
  | @serve k k' ids queued rest outer response os now here within answered =>
    obtain rfl := loopback_inj here h.loopback
    have plain := Loopback.answer_plain answered
    -- Neither the queue nor what is set up changes; only the space and the drop flag may.
    have keeps : k'.ledger p.passes = k.ledger p.passes ∧ k'.maxPending = k.maxPending := by
      rcases Loopback.answer_cases answered with ⟨-, drop, rfl⟩ | ⟨_, _, space, -, -, -, rfl⟩
      · exact ⟨rfl, rfl⟩
      · exact ⟨rfl, rfl⟩
    have top := Loopback.ledger_top k within
    refine ⟨k', h.grow rfl keeps.2 rfl ?_ ?_⟩
    · rw [List.foldl_append, Ledger.foldl_plain plain, ← keeps.1]
      simp [Loopback.ledger, Ledger.enter, Ledger.comeTo, within]
    · rw [Ledger.admitsAll_append, Ledger.foldl_plain plain]
      exact ⟨Ledger.admitsAll_plain plain, ⟨_, _, top⟩, ⟨_, _, _, top, by simp⟩, trivial⟩
  | @abandon k ids queued rest outer here within =>
    obtain rfl := loopback_inj here h.loopback
    have top := Loopback.ledger_top k within
    refine ⟨k, h.grow here rfl rfl ?_ ⟨⟨_, _, _, top, fun _ => rfl⟩, trivial⟩⟩
    simp [Loopback.ledger, Ledger.enter, Ledger.comeTo, within]
  | @endPass k isConnected ids outer here within =>
    obtain rfl := loopback_inj here h.loopback
    have top := Loopback.ledger_top k within
    cases isConnected with
    | true =>
      refine ⟨k, h.grow here rfl rfl ?_ ⟨⟨_, top⟩, trivial⟩⟩
      simp [Loopback.ledger, Ledger.enter, within]
    | false =>
      refine ⟨k, h.grow here rfl rfl ?_ ⟨⟨_, top⟩, trivial⟩⟩
      simp [Loopback.ledger, Ledger.enter, within]
  | conclude next => exact ⟨l, h.apart rfl rfl rfl rfl ⟨trivial, trivial⟩⟩
  | @fail o desk e arrives =>
    have first : o.desk? = some desk := desk?_of_arrival arrives
    have second : (Occurrence.verdict desk (p.held desk) e).desk? = some desk :=
      desk?_verdict ..
    refine ⟨l, h.apart rfl rfl rfl ?_ ⟨Ledger.admits_desk first, ?_, trivial⟩⟩
    · simp only [List.foldl_cons, List.foldl_nil]
      rw [Ledger.enter_desk first, Ledger.enter_desk second]
    · exact Ledger.admits_desk second
  | rethrow holds allowed => exact ⟨l, h.apart rfl rfl rfl rfl ⟨trivial, trivial⟩⟩
  | finish n => exact ⟨l, h.apart rfl rfl rfl rfl ⟨trivial, trivial⟩⟩
  | report context e => exact ⟨l, h.apart rfl rfl rfl rfl ⟨trivial, trivial⟩⟩
  | @steer k k' os here steering =>
    obtain rfl := loopback_inj here h.loopback
    cases steering with
    | close => exact ⟨_, h.grow rfl rfl rfl rfl ⟨trivial, trivial⟩⟩
    | reopen => exact ⟨_, h.grow rfl rfl rfl rfl ⟨trivial, trivial⟩⟩
    | failNext status => exact ⟨_, h.grow rfl rfl rfl rfl ⟨trivial, trivial⟩⟩
    | dropNext => exact ⟨_, h.grow rfl rfl rfl rfl trivial⟩
  | @change k space here allowed =>
    obtain rfl := loopback_inj here h.loopback
    exact ⟨_, h.grow rfl rfl (List.append_nil _).symm rfl trivial⟩
  | elsewhere prepared apart =>
    rw [h.loopback] at prepared
    cases prepared

theorem Entered.run (h : Entered limit p l) (moves : Relation.ReflTransGen (Move may) p q) :
    ∃ l', Entered limit q l' := by
  induction moves with
  | refl => exact ⟨l, h⟩
  | tail _ last ih =>
    obtain ⟨k, before⟩ := ih
    exact before.move last

end

/-! ### Runs -/

/-- A session over the loopback transport that has never done but what its ledger admitted, within
given passes. -/
structure State.Lawful (limit : Nat) (passes : List Pass) (s : State) : Prop where
  loopback : s.transport = .loopback s.loopback
  limited : s.loopback.maxPending = limit
  same : ledger s.history = s.loopback.ledger passes
  lawful : Ledger.AdmitsAll limit {} s.history

section
variable {limit : Nat} {passes : List Pass} {s t : State}

theorem Entered.lawful_state {l : Loopback} {due : List (Nat × Completion)}
    (h : Entered limit (s.outline passes due) l) : s.Lawful limit passes := by
  have transport : s.transport = .loopback l := h.loopback
  have found : s.loopback = l := by simp [State.loopback, transport]
  subst found
  exact ⟨transport, h.limited, h.same, h.lawful⟩

theorem State.Lawful.entered (h : s.Lawful limit passes) (due : List (Nat × Completion)) :
    Entered limit (s.outline passes due) s.loopback :=
  ⟨h.loopback, h.limited, h.same, h.lawful⟩

theorem State.Lawful.leads (h : s.Lawful limit passes)
    (leads : Leads (fun _ _ => True) (s.outline passes []) (t.outline passes [])) :
    t.Lawful limit passes := by
  obtain ⟨-, os, -, -, moves⟩ := leads
  obtain ⟨l, entered⟩ := (h.entered []).run (moves fun _ _ _ _ _ => trivial)
  exact entered.lawful_state

theorem perform_lawful {depth : Nat} {step : Step} {answer : Answer} (h : s.Lawful limit passes)
    (run : perform depth step s = some (answer, t)) : t.Lawful limit passes :=
  h.leads (perform_leads (fun _ _ => trivial) run [])

theorem start_lawful (config : Config) (clocks : Clocks) (space : AddressSpace) (limit : Nat) :
    (State.start config (.loopback { space, maxPending := limit }) clocks).Lawful limit [] :=
  ⟨rfl, rfl, rfl, trivial, trivial⟩

theorem playFrom_lawful {depth seen : Nat} {steps : List Step} {reports : List Report}
    (h : s.Lawful limit passes) (run : playFrom depth seen s steps = some reports) :
    ∀ report ∈ reports, report.after.Lawful limit passes := by
  intro report member
  exact h.leads (playFrom_leads (fun _ _ _ _ => trivial) run report member)

end

end OpcUa.Client
