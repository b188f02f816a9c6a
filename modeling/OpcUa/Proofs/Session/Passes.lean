import OpcUa.Proofs.Session.Invocation
import OpcUa.Proofs.Session.Loopback

/-!
Passes and submissions as moves, for both kinds of transport.
-/

namespace OpcUa.Client

open Run

variable {may : Power → List Pass → Prop} {act : Act}

/-! ### The loopback transport -/

section
variable {passes : List Pass} {due : List (Nat × Completion)}

theorem outline_noteAll {os : List Occurrence} {s t : State} {x : Unit}
    (h : noteAll os s = some (x, t)) :
    t.outline passes due = (s.outline passes due).add os := by
  cases h
  have same : ({ s with journal := s.journal ++ os.toArray } : State).held = s.held :=
    held_congr rfl rfl
  simp [State.outline, State.history, Outline.add, same]

theorem outline_put {l : Loopback} {s t : State} {x : Unit} (h : l.put s = some (x, t)) :
    t.outline passes due = (s.outline passes due).move l := by
  cases h
  have same : ({ s with transport := .loopback l } : State).held = s.held := held_congr rfl rfl
  simp [State.outline, State.history, Outline.move, same]

theorem loopback_eq {s : State} (kind : s.transport.isLoopback = true) :
    s.transport = .loopback s.loopback := by
  cases h : s.transport with
  | loopback l => simp [State.loopback, h]
  | prepared p => simp [h, Transport.isLoopback] at kind

theorem callBack_follows (obliging : Obliging may act) {q : Queued} {response : Option AnyResponse}
    {s t u : State} {x y : Unit} (noted : note (.calledBack q.id response) s = some (x, t))
    (received : q.receiver.receive act q.id response t = some (y, u)) :
    Leads may (((s.outline passes (q.charge?.toList ++ due))).add [.calledBack q.id response])
      (u.outline passes due) := by
  rw [← outline_note noted]
  exact receive_follows obliging q.receiver q.id response t y u received due

theorem serve_leads (obliging : Obliging may act) {q : Queued} {ids : List UInt32}
    {rest : List Queued} {s t : State} {x : Unit} (kind : s.transport.isLoopback = true)
    (h : Loopback.serve act q s = some (x, t)) :
    Leads may (s.outline (⟨true, ids, q :: rest⟩ :: passes) due)
      (t.outline (⟨true, ids, rest⟩ :: passes) due) := by
  obtain ⟨now, s₁, looked, h⟩ := bind_some h
  obtain ⟨s₂, s₃, got, h⟩ := bind_some h
  cases got
  have same := silent_timeOfDay s now s₁ looked (⟨true, ids, q :: rest⟩ :: passes) due
  have kind₁ : s₁.transport.isLoopback = true := by
    rw [← kind]
    exact congrArg (fun p => p.transport.isLoopback) same
  rcases answered : s₁.loopback.answer now q with ⟨response, os, l⟩
  rw [answered] at h
  obtain ⟨_, s₄, put, h⟩ := bind_some h
  obtain ⟨_, s₅, noted, h⟩ := bind_some h
  obtain ⟨_, s₆, served, h⟩ := bind_some h
  obtain ⟨_, s₇, called, h⟩ := bind_some h
  refine Leads.trans ?_ (callBack_follows obliging called h)
  rw [outline_note served, outline_noteAll noted, outline_put put, ← same]
  have move : Move may (s₁.outline (⟨true, ids, q :: rest⟩ :: passes) due) _ :=
    .serve now (loopback_eq kind₁) rfl answered
  have apart : ∀ o ∈ os ++ [.served q.id q.service q.body response, .calledBack q.id response],
      o.concluded? = none := by
    intro o member
    rcases List.mem_append.mp member with noted | told
    · exact Occurrence.concluded?_of_isPlain (Loopback.answer_plain answered o noted)
    · rcases List.mem_pair.mp told with rfl | rfl <;> rfl
  simpa [State.outline, Outline.add, Outline.move] using Leads.of_move move rfl apart

theorem serveAll_leads (obliging : Obliging may act) {ids : List UInt32} {rest : List Queued}
    {s t : State} {x : Unit} (kind : s.transport.isLoopback = true)
    (h : Loopback.serveAll act rest s = some (x, t)) :
    Leads may (s.outline (⟨true, ids, rest⟩ :: passes) due)
      (t.outline (⟨true, ids, []⟩ :: passes) due) := by
  induction rest generalizing s with
  | nil =>
    rw [(pure_some h).2]
    exact .refl _
  | cons q rest ih =>
    obtain ⟨_, u, served, h⟩ := bind_some h
    have first : Leads may (s.outline (⟨true, ids, q :: rest⟩ :: passes) due)
        (u.outline (⟨true, ids, rest⟩ :: passes) due) := serve_leads obliging kind served
    have kind' : u.transport.isLoopback = true := first.1.symm.trans kind
    exact first.trans (ih kind' h)

theorem abandonAll_leads (obliging : Obliging may act) {ids : List UInt32} {rest : List Queued}
    {s t : State} {x : Unit} (kind : s.transport.isLoopback = true)
    (h : Loopback.abandonAll act rest s = some (x, t)) :
    Leads may (s.outline (⟨false, ids, rest⟩ :: passes) due)
      (t.outline (⟨false, ids, []⟩ :: passes) due) := by
  induction rest generalizing s with
  | nil =>
    rw [(pure_some h).2]
    exact .refl _
  | cons q rest ih =>
    obtain ⟨_, u, called, h⟩ := bind_some h
    obtain ⟨_, v, noted, received⟩ := bind_some called
    have move : Move may (s.outline (⟨false, ids, q :: rest⟩ :: passes) due) _ :=
      .abandon (loopback_eq kind) rfl
    have first : Leads may (s.outline (⟨false, ids, q :: rest⟩ :: passes) due)
        (u.outline (⟨false, ids, rest⟩ :: passes) due) :=
      (Leads.of_move move rfl (by simp [Occurrence.concluded?])).trans
        (callBack_follows obliging noted received)
    have kind' : u.transport.isLoopback = true := first.1.symm.trans kind
    exact first.trans (ih kind' h)

theorem endPass_leads {isConnected : Bool} {ids : List UInt32} {s t : State} {x : Unit}
    (kind : s.transport.isLoopback = true)
    (h : note (if isConnected then .passServed ids.length else .passAbandoned ids.length) s =
      some (x, t)) :
    Leads may (s.outline (⟨isConnected, ids, []⟩ :: passes) due) (t.outline passes due) := by
  have move : Move may (s.outline (⟨isConnected, ids, []⟩ :: passes) due) _ :=
    .endPass (loopback_eq kind) rfl
  rw [outline_note h]
  refine .of_move move rfl ?_
  cases isConnected <;> simp [Occurrence.concluded?]

theorem loopback_pump_leads (obliging : Obliging may act) (allowed : may .pass passes)
    {s t : State} {x : Except Failure Nat} (kind : s.transport.isLoopback = true)
    (h : Loopback.pump act s = some (x, t)) :
    Leads may (s.outline passes due) (t.outline passes due) := by
  obtain ⟨_, s₀, got, h⟩ := bind_some h
  cases got
  obtain ⟨_, s₁, put, h⟩ := bind_some h
  obtain ⟨_, s₂, began, h⟩ := bind_some h
  generalize taken : s.loopback.queue.map Queued.id = ids at began
  have size : s.loopback.queue.length = ids.length := by rw [← taken, List.length_map]
  have move : Move may (s.outline passes due) _ := .beginPass (loopback_eq kind) allowed
  have start : Leads may (s.outline passes due)
      (s₂.outline (⟨s.loopback.isConnected, ids, s.loopback.queue⟩ :: passes) due) := by
    rw [outline_note began, outline_put put, ← taken]
    exact .of_move move rfl (by simp [Occurrence.concluded?])
  have kind₂ : s₂.transport.isLoopback = true := start.1.symm.trans kind
  refine start.trans ?_
  rw [size] at h
  cases state : s.loopback.isConnected with
  | true =>
    rw [state, if_pos rfl] at h
    obtain ⟨_, s₃, served, h⟩ := bind_some h
    obtain ⟨_, s₄, ended, h⟩ := bind_some h
    have body : Leads may (s₂.outline (⟨true, ids, s.loopback.queue⟩ :: passes) due)
        (s₃.outline (⟨true, ids, []⟩ :: passes) due) := serveAll_leads obliging kind₂ served
    rw [← (pure_some h).2]
    exact body.trans (endPass_leads (body.1.symm.trans kind₂) ended)
  | false =>
    rw [state, if_neg Bool.false_ne_true] at h
    obtain ⟨_, s₃, abandoned, h⟩ := bind_some h
    obtain ⟨_, s₄, ended, h⟩ := bind_some h
    have body : Leads may (s₂.outline (⟨false, ids, s.loopback.queue⟩ :: passes) due)
        (s₃.outline (⟨false, ids, []⟩ :: passes) due) := abandonAll_leads obliging kind₂ abandoned
    rw [← (pure_some h).2]
    exact body.trans (endPass_leads (body.1.symm.trans kind₂) ended)

/-! ### The prepared transport -/

theorem prepared_eq {s : State} (kind : s.transport.isLoopback = false) :
    s.transport = .prepared s.prepared := by
  cases h : s.transport with
  | loopback l => simp [h, Transport.isLoopback] at kind
  | prepared p => simp [State.prepared, h]

/-- A session with a prepared transport goes on without anything happening at its catchers, and
without an operation being concluded. -/
structure Apart (s t : State) : Prop where
  before : s.transport.isLoopback = false
  after : t.transport.isLoopback = false
  held : t.held = s.held
  history : ∃ os, t.history = s.history ++ os ∧
    ∀ o ∈ os, o.desk? = none ∧ o.concluded? = none

namespace Apart

theorem trans {s t u : State} (first : Apart s t) (later : Apart t u) : Apart s u := by
  obtain ⟨os, history, apart⟩ := first.history
  obtain ⟨os', history', apart'⟩ := later.history
  refine ⟨first.before, later.after, later.held.trans first.held, os ++ os', ?_, ?_⟩
  · rw [history', history, List.append_assoc]
  · intro o member
    rcases List.mem_append.mp member with member | member
    · exact apart o member
    · exact apart' o member

/-- What a prepared transport does, apart from the catchers, is one move. -/
theorem leads {s t : State} (h : Apart s t) (passes passes' : List Pass)
    (due due' : List (Nat × Completion)) :
    Leads may (s.outline passes due) (t.outline passes' due') := by
  obtain ⟨os, history, apart⟩ := h.history
  rw [State.outline.eq_def t, prepared_eq h.after, h.held, history]
  exact .of_move (.elsewhere (prepared_eq h.before) fun o member => (apart o member).1) rfl
    fun o member => (apart o member).2

theorem of_silent {α : Type} {a : Run α} {s t : State} {x : α} (h : Silent a)
    (kind : s.transport.isLoopback = false) (run : a s = some (x, t)) : Apart s t := by
  have same : t.outline [] [] = s.outline [] [] := h s x t run [] []
  refine ⟨kind, ?_, congrArg Outline.held same, [], ?_, by simp⟩
  · rw [show t.transport = s.transport from congrArg Outline.transport same, kind]
  · rw [List.append_nil]
    exact congrArg Outline.history same

theorem note {o : Occurrence} {s t : State} {x : Unit} (desk : o.desk? = none)
    (apart : o.concluded? = none) (kind : s.transport.isLoopback = false)
    (run : Run.note o s = some (x, t)) : Apart s t := by
  cases run
  exact ⟨kind, kind, held_congr rfl rfl, [o], by simp [State.history], by simp [desk, apart]⟩

theorem count {f : Stats → Stats} {s t : State} {x : Unit}
    (kind : s.transport.isLoopback = false) (run : Run.count f s = some (x, t)) : Apart s t := by
  cases run
  exact ⟨kind, kind, held_congr rfl rfl, [], by simp [State.history], by simp⟩

theorem put {p : Prepared} {s t : State} {x : Unit} (kind : s.transport.isLoopback = false)
    (run : p.put s = some (x, t)) : Apart s t := by
  cases run
  exact ⟨kind, rfl, held_congr rfl rfl, [], by simp [State.history], by simp⟩

end Apart

theorem deliver_leads (obliging : Obliging may act) {q : Queued} {delivery : Delivery} {s t : State}
    {n : Nat} (kind : s.transport.isLoopback = false)
    (h : Prepared.deliver act q delivery s = some (n, t)) :
    Leads may (s.outline passes due) (t.outline passes due) := by
  have callBack : ∀ {response : Option AnyResponse} {u : State} {x : Unit},
      q.callBack act response s = some (x, u) →
        Leads may (s.outline passes due) (u.outline passes due) := by
    intro response u x called
    obtain ⟨_, v, noted, received⟩ := bind_some called
    refine Leads.trans ?_ (callBack_follows obliging noted received)
    rw [← outline_note noted]
    exact (Apart.note rfl rfl kind noted).leads _ _ _ _
  cases delivery with
  | response results serviceResult handle =>
    obtain ⟨_, u, called, h⟩ := bind_some h
    rw [← (pure_some h).2]
    exact callBack called
  | absent | wrongType =>
    obtain ⟨_, u, called, h⟩ := bind_some h
    rw [← (pure_some h).2]
    exact callBack called
  | foreignContext =>
    obtain ⟨_, u, called, h⟩ := bind_some h
    rw [← (pure_some h).2]
    cases r : q.receiver with
    | adapter service a => rw [r] at called; exact misdirect_follows a s _ u called due
    | probe => rw [r] at called; exact note_follows rfl s _ u called due
  | dropped =>
    obtain ⟨_, u, called, h⟩ := bind_some h
    rw [← (pure_some h).2]
    cases r : q.receiver with
    | adapter service a =>
      rw [r] at called
      exact Follows.of_silent (silent_drop a.completion) s _ u called due
    | probe => rw [r] at called; exact Follows.of_pure _ s _ u called due
  | held =>
    obtain ⟨_, u, got, h⟩ := bind_some h
    cases got
    obtain ⟨_, v, put, h⟩ := bind_some h
    rw [← (pure_some h).2]
    exact (Apart.put kind put).leads _ _ _ _

theorem deliverAll_leads (obliging : Obliging may act) {rest : List (Queued × Delivery)}
    {s t : State} {n : Nat} (kind : s.transport.isLoopback = false)
    (h : Prepared.deliverAll act rest s = some (n, t)) :
    Leads may (s.outline passes due) (t.outline passes due) := by
  induction rest generalizing s t n with
  | nil =>
    rw [(pure_some h).2]
    exact .refl _
  | cons entry rest ih =>
    obtain ⟨_, u, first, h⟩ := bind_some h
    obtain ⟨_, v, later, h⟩ := bind_some h
    obtain ⟨-, rfl⟩ := pure_some h
    have one : Leads may (s.outline passes due) (u.outline passes due) :=
      deliver_leads obliging kind first
    exact one.trans (ih (one.1.symm.trans kind) later)

theorem prepared_pump_leads (obliging : Obliging may act) {s t : State} {x : Except Failure Nat}
    (kind : s.transport.isLoopback = false) (h : Prepared.pump act s = some (x, t)) :
    Leads may (s.outline passes due) (t.outline passes due) := by
  obtain ⟨_, s₀, got, h⟩ := bind_some h
  cases got
  rcases planned : s.prepared.nextPassPlan with ⟨plan, p⟩
  rw [planned] at h
  cases before : plan.errorBefore with
  | some e =>
    simp only [before] at h
    obtain ⟨_, u, put, h⟩ := bind_some h
    rw [← (pure_some h).2]
    exact (Apart.put kind put).leads _ _ _ _
  | none =>
    simp only [before] at h
    obtain ⟨_, u, put, h⟩ := bind_some h
    obtain ⟨made, v, delivered, h⟩ := bind_some h
    have first : Apart s u := .put kind put
    have body : Leads may (u.outline passes due) (v.outline passes due) :=
      deliverAll_leads obliging first.after delivered
    have same : v = t := by
      cases after : plan.errorAfter with
      | some e => rw [after] at h; exact (pure_some h).2
      | none => rw [after] at h; exact (pure_some h).2
    rw [← same]
    exact (first.leads _ _ _ _).trans body

end

/-! ### Passes -/

theorem pump_follows (obliging : Obliging may act) {passes : List Pass}
    (allowed : may .pass passes) : Follows may passes [] (pump act) := by
  intro s x t h others
  obtain ⟨_, s₀, got, h⟩ := bind_some h
  cases got
  cases transport : s.transport with
  | loopback l =>
    rw [transport] at h
    exact loopback_pump_leads obliging allowed (by rw [transport]; rfl) h
  | prepared p =>
    rw [transport] at h
    exact prepared_pump_leads obliging (by rw [transport]; rfl) h

/-- A pass gives how many requests were queued when it began, or fails on a closed transport. -/
theorem loopback_pump_result {s t : State} {l : Loopback} {r : Except Failure Nat}
    (loopback : s.transport = .loopback l) (run : pump act s = some (r, t)) :
    r = if l.isConnected then .ok l.queue.length else .error .disconnected := by
  obtain ⟨_, s₀, got, run⟩ := bind_some run
  cases got
  rw [loopback] at run
  obtain ⟨_, s₁, got, run⟩ := bind_some run
  cases got
  have found : s.loopback = l := by simp [State.loopback, loopback]
  rw [found] at run
  obtain ⟨_, s₂, put, run⟩ := bind_some run
  obtain ⟨_, s₃, began, run⟩ := bind_some run
  cases state : l.isConnected with
  | true =>
    rw [state, if_pos rfl] at run
    obtain ⟨_, s₄, served, run⟩ := bind_some run
    obtain ⟨_, s₅, ended, run⟩ := bind_some run
    exact (pure_some run).1.symm
  | false =>
    rw [state, if_neg Bool.false_ne_true] at run
    obtain ⟨_, s₄, abandoned, run⟩ := bind_some run
    obtain ⟨_, s₅, ended, run⟩ := bind_some run
    exact (pure_some run).1.symm

/-! ### Submissions -/

section
variable {passes : List Pass} {due : List (Nat × Completion)}

theorem handOver_loopback {l : Loopback} {s t : State} {service : Service}
    {body : Option AnyRequest} {receiver : Receiver} {r : Except (StatusCode × Bool) UInt32}
    (transport : s.transport = .loopback l)
    (h : handOver service body receiver s = some (r, t)) :
    (∃ id l', l.submit service body receiver = (.ok id, l') ∧ r = .ok id ∧
      t.outline passes due = ((s.outline passes due).move l').add [.accepted id service body]) ∨
    (∃ status l', l.submit service body receiver = (.error status, l') ∧
      r = .error (status, false) ∧
      t.outline passes due = ((s.outline passes due).move l').add [.refused service status]) := by
  obtain ⟨_, s₀, got, h⟩ := bind_some h
  cases got
  rw [transport, submitTo] at h
  have changed : ∀ l' : Loopback,
      ({ s with transport := .loopback l' } : State).outline passes due =
      (s.outline passes due).move l' := fun l' => outline_put rfl
  rcases submitted : l.submit service body receiver with ⟨result, l'⟩
  rw [submitted] at h
  cases result with
  | ok id =>
    obtain ⟨_, u, put, h⟩ := bind_some h
    obtain ⟨_, v, noted, h⟩ := bind_some h
    obtain ⟨rfl, rfl⟩ := pure_some h
    cases put
    exact .inl ⟨id, l', rfl, rfl, by rw [outline_note noted, changed]⟩
  | error status =>
    obtain ⟨_, u, put, h⟩ := bind_some h
    obtain ⟨_, v, noted, h⟩ := bind_some h
    obtain ⟨rfl, rfl⟩ := pure_some h
    cases put
    exact .inr ⟨status, l', rfl, rfl, by rw [outline_note noted, changed]⟩

theorem handOver_prepared {s t : State} {service : Service} {body : Option AnyRequest}
    {receiver : Receiver} {r : Except (StatusCode × Bool) UInt32}
    (kind : s.transport.isLoopback = false)
    (h : handOver service body receiver s = some (r, t)) : Apart s t := by
  obtain ⟨_, s₀, got, h⟩ := bind_some h
  cases got
  rw [prepared_eq kind, submitTo] at h
  rcases submitted : s.prepared.submit service body receiver with ⟨result, p⟩
  rw [submitted] at h
  obtain ⟨_, u, put, h⟩ := bind_some h
  have first : Apart s u := .put kind put
  cases result with
  | ok id =>
    obtain ⟨_, v, noted, h⟩ := bind_some h
    obtain ⟨-, rfl⟩ := pure_some h
    exact first.trans (.note rfl rfl first.after noted)
  | error e =>
    obtain ⟨_, v, noted, h⟩ := bind_some h
    obtain ⟨-, rfl⟩ := pure_some h
    exact first.trans (.note rfl rfl first.after noted)

theorem outline_count {f : Stats → Stats} {s t : State} {x : Unit} (h : count f s = some (x, t)) :
    t.outline passes due =
      { s.outline passes due with stats := f (s.outline passes due).stats } := by
  cases h
  have same : ({ s with stats := f s.stats } : State).held = s.held := held_congr rfl rfl
  simp [State.outline, State.history, same]

/-- A new operation bears the number of those before it. -/
theorem outline_newOperation {c : Completion} {s t : State} {n : Nat}
    (h : newOperation c s = some (n, t)) :
    n = s.operations ∧ t.outline passes due =
      { s.outline passes due with
        operations := s.operations + 1
        history := s.history ++ [.began s.operations c] } := by
  cases h
  exact ⟨rfl, outline_note (s := { s with operations := s.operations + 1 }) rfl⟩

theorem submit_loopback_leads (obliging : Obliging may act) {c : Call} {completion : Completion}
    {l : Loopback} {s t : State} {x : Unit} (transport : s.transport = .loopback l)
    (h : submit act c completion s = some (x, t)) :
    Leads may (s.outline passes due) (t.outline passes due) := by
  obtain ⟨n, s₁, begun, h⟩ := bind_some h
  obtain ⟨now, s₂, looked, h⟩ := bind_some h
  obtain ⟨r, s₃, handed, h⟩ := bind_some h
  have out : s₂.outline passes due = { s.outline passes due with
      operations := s.operations + 1
      history := s.history ++ [.began s.operations completion] } := by
    rw [silent_timeOfDay s₁ now s₂ looked]
    exact (outline_newOperation begun).2
  have transport' : s₂.transport = .loopback l := (congrArg Outline.transport out).trans transport
  obtain ⟨rfl, -⟩ : n = s.operations ∧ s₁.outline passes due = _ := outline_newOperation begun
  have own : (Receiver.adapter c.service (c.adapter s.operations completion)).charge? =
      some (s.operations, completion) := rfl
  rcases handOver_loopback transport' handed with
    ⟨id, l', taken, rfl, out'⟩ | ⟨status, l', refused, rfl, out'⟩
  · obtain ⟨_, s₄, counted, noted⟩ := bind_some h
    rw [outline_note noted, outline_count counted, out', out]
    have move : Move may (s.outline passes due) _ := .accept transport taken own
    simpa [State.outline, Outline.add, Outline.move] using
      Leads.of_move move rfl (by simp [Occurrence.concluded?])
  · obtain ⟨_, s₄, counted, h⟩ := bind_some h
    obtain ⟨_, s₅, noted, h⟩ := bind_some h
    have rest : Leads may (s₅.outline passes ((s.operations, completion) :: due))
        (t.outline passes due) :=
      conclude_follows _ obliging _ _ s₅ x t h due
    refine Leads.trans ?_ rest
    show Leads may _ { s₅.outline passes due with due := (s.operations, completion) :: due }
    rw [outline_note noted, outline_count counted, out', out]
    have move : Move may (s.outline passes due) _ := .refuse transport refused own
    simpa [State.outline, Outline.add, Outline.move] using
      Leads.of_move move rfl (by simp [Occurrence.concluded?])

theorem submit_prepared_leads (obliging : Obliging may act) {c : Call} {completion : Completion}
    {s t : State} {x : Unit} (kind : s.transport.isLoopback = false)
    (h : submit act c completion s = some (x, t)) :
    Leads may (s.outline passes due) (t.outline passes due) := by
  obtain ⟨n, s₁, begun, h⟩ := bind_some h
  obtain ⟨now, s₂, looked, h⟩ := bind_some h
  obtain ⟨r, s₃, handed, h⟩ := bind_some h
  have first : Apart s s₁ := by
    cases begun
    exact ⟨kind, kind, held_congr rfl rfl, [.began s.operations completion],
      by simp [State.history], by simp [Occurrence.desk?, Occurrence.concluded?]⟩
  have second : Apart s₁ s₂ := .of_silent silent_timeOfDay first.after looked
  have before : Apart s s₃ := (first.trans second).trans (handOver_prepared second.after handed)
  cases r with
  | ok id =>
    obtain ⟨_, s₄, counted, noted⟩ := bind_some h
    have counted : Apart s₃ s₄ := .count before.after counted
    exact ((before.trans counted).trans (.note rfl rfl counted.after noted)).leads _ _ _ _
  | error e =>
    obtain ⟨status, isForeign⟩ := e
    obtain ⟨_, s₄, counted, h⟩ := bind_some h
    obtain ⟨_, s₅, noted, h⟩ := bind_some h
    have counted : Apart s₃ s₄ := .count before.after counted
    have refused : Apart s s₅ := (before.trans counted).trans (.note rfl rfl counted.after noted)
    cases isForeign with
    | true => exact (refused.leads _ _ _ _).trans (misdirect_follows _ s₅ x t h due)
    | false => exact (refused.leads _ _ _ _).trans (conclude_follows _ obliging _ _ s₅ x t h due)

end

theorem submit_follows (obliging : Obliging may act) {passes : List Pass} (c : Call)
    (completion : Completion) : Follows may passes [] (submit act c completion) := by
  intro s x t h others
  cases transport : s.transport with
  | loopback l => exact submit_loopback_leads obliging transport h
  | prepared p => exact submit_prepared_leads obliging (by rw [transport]; rfl) h

end OpcUa.Client
