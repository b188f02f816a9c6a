import OpcUa.Proofs.Session.Callback
import OpcUa.Proofs.Session.Tally

/-!
The balance of a client's counters. Every step of a session over the loopback transport can be
accounted for, so between steps the counters stand where the history says they do. They leave out
the passes over a closed transport, because such a pass fails before it is counted.
-/

namespace OpcUa.Client

open Run

/-! ### Small actions -/

namespace Accountable

variable {α β : Type}

theorem of_silent {a : Run α} (h : Silent a) : Accountable a := by
  intro s x t run own
  have same : t.outline [] [] = s.outline [] [] := h s x t run [] []
  exact .of_outline same rfl rfl rfl rfl rfl (List.append_nil _).symm (by simp)

theorem of_pure (x : α) : Accountable (pure x : Run α) := of_silent (.of_pure x)

theorem bind {a : Run α} {f : α → Run β} (ha : Accountable a) (hf : ∀ x, Accountable (f x)) :
    Accountable (a >>= f) := by
  intro s y u run own
  obtain ⟨x, t, first, later⟩ := bind_some run
  exact (ha s x t first own).trans (hf x t y u later own)

end Accountable

theorem note_accountable {o : Occurrence} (h : o.isCounted = false) : Accountable (note o) := by
  intro s x t run own
  have same : t.outline [] [] = _ := outline_note run
  exact .of_outline same rfl rfl rfl rfl rfl rfl (by simpa using h)

theorem setCaught_accountable (desk : Desk) (e : Option Failure) :
    Accountable (setCaught desk e) := by
  intro s x t run own
  have same : t.outline [] [] = _ := held_setCaught run
  exact .of_outline same rfl rfl rfl rfl rfl (List.append_nil _).symm (by simp)

theorem store_accountable (desk : Desk) (e : Failure) : Accountable (store desk e) := by
  refine .bind (.of_silent (silent_caught desk)) fun found => ?_
  cases found with
  | some pending => exact note_accountable rfl
  | none => exact .bind (note_accountable rfl) fun _ => setCaught_accountable desk _

theorem rethrow_accountable (desk : Desk) : Accountable (rethrow desk) := by
  refine .bind (.of_silent (silent_caught desk)) fun found => ?_
  cases found with
  | none => exact .of_pure _
  | some e =>
    refine .bind (setCaught_accountable desk none) fun _ => ?_
    exact .bind (note_accountable rfl) fun _ => .of_pure _

theorem count_accountable {f : Stats → Stats}
    (h : ∀ stats, (f stats).submitted = stats.submitted ∧
      (f stats).iterations = stats.iterations ∧ (f stats).callbacks = stats.callbacks) :
    Accountable (count f) := by
  intro s x t run own
  obtain ⟨submitted, iterations, callbacks⟩ := h s.stats
  have same : t.outline [] [] = _ := outline_count run
  exact .of_outline same rfl rfl iterations callbacks submitted (List.append_nil _).symm (by simp)

theorem newOperation_accountable (c : Completion) : Accountable (newOperation c) := by
  intro s n t run own
  have same : t.outline [] [] = _ := (outline_newOperation run).2
  exact .of_outline same rfl rfl rfl rfl rfl rfl (by simp [Occurrence.isCounted])

/-! ### Completions -/

/-- Whatever application code does next can be accounted for. -/
def Willing (act : Act) : Prop := ∀ step, Accountable (takeStep act step)

section
variable {act : Act}

theorem takeSteps_accountable (willing : Willing act) (steps : List Step) :
    Accountable (takeSteps act steps) := by
  induction steps with
  | nil => exact .of_pure _
  | cons step rest ih => exact .bind (willing step) fun _ => ih

theorem runSteps_accountable (willing : Willing act) (name : String) (steps : List Step) :
    Accountable (runSteps act name steps) := by
  induction steps with
  | nil => exact .of_pure _
  | cons step rest ih =>
    refine .bind (willing step) fun answer => ?_
    exact .bind (note_accountable rfl) fun _ => ih

theorem invoke_accountable (willing : Willing act) (c : Completion) (on : Occasion)
    (status : StatusCode) (payload : Payload) :
    Accountable (c.invoke act on status payload) := by
  have noted : Accountable (on.noteConcluded c status payload) := by
    unfold Occasion.noteConcluded
    cases on.operation with
    | none => exact .of_pure _
    | some n => exact note_accountable rfl
  refine .bind noted fun _ => ?_
  cases c with
  | future cell => exact .bind (.of_silent (silent_setCell _ _)) fun _ => .of_pure _
  | nobody => exact .of_pure _
  | handler h =>
    refine .bind (note_accountable rfl) fun _ => ?_
    refine .bind (runSteps_accountable willing _ _) fun _ => ?_
    exact .bind (note_accountable rfl) fun _ => .of_pure _

section
variable {ρ : Type} (a : Adapter ρ)

theorem conclude_accountable (willing : Willing act) (status : StatusCode) (payload : Payload) :
    Accountable (a.conclude act status payload) := by
  refine .bind (.bind (invoke_accountable willing _ _ _ _) fun outcome => ?_) fun _ => .of_pure _
  cases outcome with
  | ok _ => exact .of_pure _
  | error e => exact .bind (store_accountable _ _) fun _ => .of_pure _

theorem adapter_receive_accountable (willing : Willing act) (id : UInt32) (response : Option ρ) :
    Accountable (a.receive act id response) := by
  cases response with
  | none =>
    refine .bind (note_accountable rfl) fun _ => ?_
    refine .bind (note_accountable rfl) fun _ => ?_
    exact .bind (conclude_accountable a willing _ _) fun _ => .of_pure _
  | some r =>
    refine .bind (takeSteps_accountable willing _) fun _ => ?_
    split
    next =>
      refine .bind (note_accountable rfl) fun _ => ?_
      exact .bind (conclude_accountable a willing _ _) fun _ => .of_pure _
    next =>
      refine .bind (note_accountable rfl) fun _ => ?_
      refine .bind (note_accountable rfl) fun _ => ?_
      exact .bind (conclude_accountable a willing _ _) fun _ => .of_pure _

theorem misdirect_accountable : Accountable a.misdirect :=
  .bind (note_accountable rfl) fun _ => .of_silent (silent_drop _)

end

theorem receive_accountable (willing : Willing act) (r : Receiver) (id : UInt32)
    (response : Option AnyResponse) : Accountable (r.receive act id response) := by
  cases r with
  | adapter s a => exact .bind (adapter_receive_accountable a willing _ _) fun _ => .of_pure _
  | probe => exact note_accountable rfl

/-! ### Submissions -/

theorem handOver_accountable (service : Service) (body : Option AnyRequest) (receiver : Receiver) :
    Accountable (handOver service body receiver) := by
  intro s r t run own kind
  have loopback : s.transport = .loopback s.loopback := loopback_eq kind
  have before : s.transport.pending = s.loopback.queue.length := by rw [loopback]; rfl
  rcases @handOver_loopback [] [] _ _ _ _ _ _ _ loopback run with
    ⟨id, l', taken, -, same⟩ | ⟨status, l', refused, -, same⟩
  · obtain ⟨-, rfl⟩ := Loopback.submit_ok taken
    have transport : t.transport = _ := congrArg Outline.transport same
    have stats : t.stats = s.stats := congrArg Outline.stats same
    have history : t.history = s.history ++ [.accepted id service body] :=
      congrArg Outline.history same
    refine ⟨[.accepted id service body], [], [], .still ?_ stats history rfl, ?_, ?_⟩
    · rw [transport]
      rfl
    · exact fun tally _ _ => ⟨[], .refl _, tally.more_nil.symm⟩
    · rw [transport, before]
      simp [Outline.move, Outline.add, Transport.pending, Occurrence.isAccepted]
  · obtain rfl := Loopback.submit_error refused
    refine Calls.of_outline same ?_ ?_ rfl rfl rfl rfl (by simp [Occurrence.isCounted]) kind
    · rw [kind]
      rfl
    · rw [before]
      rfl

theorem countSubmitted_accountable (n : Nat) (id : UInt32) (service : Service) :
    Accountable (do
      count fun s => { s with submitted := Stats.bump s.submitted 1 }
      note (.submitted n id service)) := by
  intro s x t run own kind
  obtain ⟨_, u, counted, noted⟩ := bind_some run
  have same : t.outline [] [] = _ := outline_note noted
  rw [outline_count counted] at same
  have transport : t.transport = s.transport := congrArg Outline.transport same
  have stats : t.stats = _ := congrArg Outline.stats same
  refine ⟨[.submitted n id service], [], [], ⟨?_, ?_, ?_, ?_, ?_⟩, ?_, ?_⟩
  · rw [transport, kind]
  · exact congrArg Outline.history same
  · intro m before
    rw [stats]
    exact before
  · intro m before
    rw [stats]
    exact before
  · intro m before
    rw [stats]
    show Stats.bump s.stats.submitted 1 = _
    rw [before, capped_bump]
    rfl
  · exact fun tally _ _ => ⟨[], .refl _, tally.more_nil.symm⟩
  · rw [transport]
    rfl

theorem submit_accountable (willing : Willing act) (c : Call) (completion : Completion) :
    Accountable (submit act c completion) := by
  refine .bind (newOperation_accountable completion) fun n => ?_
  refine .bind (.of_silent silent_timeOfDay) fun now => ?_
  refine .bind (handOver_accountable _ _ _) fun r => ?_
  cases r with
  | ok id => exact countSubmitted_accountable n id c.service
  | error e =>
    refine .bind (count_accountable fun _ => ⟨rfl, rfl, rfl⟩) fun _ => ?_
    refine .bind (note_accountable rfl) fun _ => ?_
    split
    · exact misdirect_accountable _
    · exact conclude_accountable _ willing _ _

/-! ### Passes -/

theorem callBack_calls (willing : Willing act) {own : Nature} {q : Queued}
    {response : Option AnyResponse} {s t : State} {x : Unit}
    (run : q.callBack act response s = some (x, t)) : Calls own 1 s t := by
  obtain ⟨_, u, noted, received⟩ := bind_some run
  have called : Calls own 1 s u := by
    intro kind
    have same : u.outline [] [] = _ := outline_note noted
    have transport : u.transport = s.transport := congrArg Outline.transport same
    have stats : u.stats = s.stats := congrArg Outline.stats same
    have history : u.history = s.history ++ [.calledBack q.id response] :=
      congrArg Outline.history same
    refine ⟨[.calledBack q.id response], [], [], .still ?_ stats history rfl, ?_, ?_⟩
    · rw [transport, kind]
    · intro tally quiet within
      refine ⟨[own], .refl _, ?_⟩
      have head := within Nat.one_ne_zero
      simp [Tally.readAll, Tally.read, Tally.more, head]
    · rw [transport]
      rfl
  exact called.then_none (receive_accountable willing _ _ _ u _ t received own)

theorem noteAll_accountable {os : List Occurrence} (h : ∀ o ∈ os, o.isCounted = false) :
    Accountable (noteAll os) := by
  intro s x t run own
  have same : t.outline [] [] = _ := outline_noteAll run
  exact .of_outline same rfl rfl rfl rfl rfl rfl h

theorem put_calls {own : Nature} {l : Loopback} {s t : State} {x : Unit}
    (run : l.put s = some (x, t)) (same : l.queue = s.loopback.queue) : Calls own 0 s t := by
  intro kind
  have before : s.transport = .loopback s.loopback := loopback_eq kind
  have out : t.outline [] [] = _ := outline_put run
  refine Calls.of_outline out ?_ ?_ rfl rfl rfl (List.append_nil _).symm (by simp) kind
  · rw [kind]
    rfl
  · rw [before]
    exact congrArg List.length same

theorem answer_uncounted {l l' : Loopback} {now : Timestamp} {q : Queued}
    {response : Option AnyResponse} {os : List Occurrence}
    (h : l.answer now q = (response, os, l')) : ∀ o ∈ os, o.isCounted = false := by
  intro o member
  rcases Loopback.answer_tells h o member with ⟨id, rfl⟩ | ⟨service, rfl⟩
  · rfl
  · rfl

theorem serve_calls (willing : Willing act) {own : Nature} {q : Queued} {s t : State} {x : Unit}
    (run : Loopback.serve act q s = some (x, t)) : Calls own 1 s t := by
  obtain ⟨now, s₁, looked, run⟩ := bind_some run
  obtain ⟨_, _, got, run⟩ := bind_some run
  cases got
  rcases answered : s₁.loopback.answer now q with ⟨response, os, l⟩
  rw [answered] at run
  obtain ⟨_, s₂, put, run⟩ := bind_some run
  obtain ⟨_, s₃, noted, run⟩ := bind_some run
  obtain ⟨_, s₄, served, called⟩ := bind_some run
  have first : Calls own 0 s s₁ := Accountable.of_silent silent_timeOfDay s _ s₁ looked own
  have second : Calls own 0 s₁ s₂ := put_calls put (Loopback.answer_keeps answered).1
  have third : Calls own 0 s₂ s₃ :=
    noteAll_accountable (answer_uncounted answered) s₂ _ s₃ noted own
  have fourth : Calls own 0 s₃ s₄ := note_accountable rfl s₃ _ s₄ served own
  exact (((first.trans second).trans third).trans fourth).none_then (callBack_calls willing called)

theorem serveAll_calls (willing : Willing act) {own : Nature} {batch : List Queued} {s t : State}
    {x : Unit} (run : Loopback.serveAll act batch s = some (x, t)) :
    Calls own batch.length s t := by
  induction batch generalizing s with
  | nil => exact Accountable.of_pure () s x t run own
  | cons q rest ih =>
    obtain ⟨_, u, served, run⟩ := bind_some run
    have one : Calls own 1 s u := serve_calls willing served
    simpa [Nat.add_comm] using one.trans (ih run)

theorem abandonAll_calls (willing : Willing act) {own : Nature} {batch : List Queued}
    {s t : State} {x : Unit} (run : Loopback.abandonAll act batch s = some (x, t)) :
    Calls own batch.length s t := by
  induction batch generalizing s with
  | nil => exact Accountable.of_pure () s x t run own
  | cons q rest ih =>
    obtain ⟨_, u, called, run⟩ := bind_some run
    have one : Calls own 1 s u := callBack_calls willing called
    simpa [Nat.add_comm] using one.trans (ih run)

/-- A pass of the transport takes the requests from its queue, has their callbacks invoked and
ends. -/
theorem pump_parts (willing : Willing act) (own : Nature) {s t : State} {r : Except Failure Nat}
    (run : Loopback.pump act s = some (r, t)) :
    ∃ u v o, u.outline [] [] = ((s.outline [] []).move { s.loopback with queue := [] }).add
          [.passBegan s.loopback.isConnected (s.loopback.queue.map Queued.id)] ∧
      Calls own s.loopback.queue.length u v ∧ note o v = some ((), t) ∧ o.isPassEnd = true := by
  obtain ⟨_, s₀, got, run⟩ := bind_some run
  cases got
  obtain ⟨_, s₁, put, run⟩ := bind_some run
  obtain ⟨_, s₂, began, run⟩ := bind_some run
  have out : s₂.outline [] [] = _ := outline_note began
  rw [outline_put put] at out
  by_cases connected : s.loopback.isConnected = true
  · rw [if_pos connected] at run
    obtain ⟨_, s₃, served, run⟩ := bind_some run
    obtain ⟨_, s₄, ended, run⟩ := bind_some run
    obtain ⟨-, rfl⟩ := pure_some run
    exact ⟨s₂, s₃, _, out, serveAll_calls willing served, ended, rfl⟩
  · rw [if_neg connected] at run
    obtain ⟨_, s₃, abandoned, run⟩ := bind_some run
    obtain ⟨_, s₄, ended, run⟩ := bind_some run
    obtain ⟨-, rfl⟩ := pure_some run
    exact ⟨s₂, s₃, _, out, abandonAll_calls willing abandoned, ended, rfl⟩

/-- A pass of the transport, with all that happens in it: what it is to the client depends on who
asked for it, and its callbacks are as many as it took requests from the queue. -/
theorem pump_counts (willing : Willing act) {s t : State} {r : Except Failure Nat} (asked : Bool)
    (kind : s.transport.isLoopback = true) (run : Loopback.pump act s = some (r, t)) :
    ∃ os passes nested, Counts s t os (passes.count .served) (nested.count .served) ∧
      (∀ tally : Tally, tally.asked = asked → ∃ callbacks,
        callbacks.Perm (nested ++
          List.replicate s.loopback.queue.length (.of asked s.loopback.isConnected)) ∧
        tally.readAll os = ({ tally with asked := false } : Tally).more
          (.of asked s.loopback.isConnected :: passes) callbacks) ∧
      t.transport.pending + nested.length + s.loopback.queue.length =
        s.transport.pending + os.countP Occurrence.isAccepted := by
  have before : s.transport = .loopback s.loopback := loopback_eq kind
  generalize nature : Nature.of asked s.loopback.isConnected = own
  obtain ⟨u, v, o, out, calls, ended, isEnd⟩ := pump_parts willing own run
  have emptied : u.transport = .loopback { s.loopback with queue := [] } :=
    congrArg Outline.transport out
  have kind' : u.transport.isLoopback = true := by rw [emptied]; rfl
  let mark : Occurrence :=
    .passBegan s.loopback.isConnected (s.loopback.queue.map Queued.id)
  have start : Counts s u [mark] 0 0 :=
    .still kind' (congrArg Outline.stats out) (congrArg Outline.history out) rfl
  obtain ⟨os, passes, nested, accounts⟩ := calls kind'
  have closing : t.outline [] [] = _ := outline_note ended
  have transport : t.transport = v.transport := congrArg Outline.transport closing
  have stop : Counts v t [o] 0 0 := by
    refine .still ?_ (congrArg Outline.stats closing) (congrArg Outline.history closing) ?_
    · rw [transport, accounts.loopback]
    · exact (countP_passEnd isEnd).2
  refine ⟨[mark] ++ os ++ [o], passes, nested, ?_, ?_, ?_⟩
  · simpa using (start.trans accounts.toCounts).trans stop
  · intro tally isAsked
    let inner : Tally := tally.read mark
    have head : inner.passing = own :: tally.passing := by
      simp [inner, mark, Tally.read, isAsked, nature]
    obtain ⟨callbacks, made, read⟩ := accounts.reads inner rfl fun _ => by rw [head]; rfl
    refine ⟨callbacks, made, ?_⟩
    have split : tally.readAll ([mark] ++ os ++ [o]) = (inner.readAll os).read o := by
      rw [Tally.readAll_append, Tally.readAll_append]
      rfl
    rw [split, read, Tally.read_passEnd isEnd]
    simp [inner, mark, Tally.read, Tally.more, isAsked, nature]
  · have sum := accounts.pending
    have begins : [mark].countP Occurrence.isAccepted = 0 := rfl
    have taken : u.transport.pending = 0 := by rw [emptied]; rfl
    have queued : s.transport.pending = s.loopback.queue.length := by rw [before]; rfl
    rw [List.countP_append, List.countP_append, begins, (countP_passEnd isEnd).1, transport, queued]
    omega

theorem Accounts.of_pass {own nature : Nature} {k : Nat} {s t : State} {os : List Occurrence}
    {passes nested : List Nature}
    (counts : Counts s t os ((nature :: passes).count .served)
      ((nested ++ List.replicate k nature).count .served))
    (reads : ∀ tally : Tally, tally.asked = false → ∃ callbacks,
      callbacks.Perm (nested ++ List.replicate k nature) ∧
        tally.readAll os = tally.more (nature :: passes) callbacks)
    (pending : t.transport.pending + nested.length + k =
      s.transport.pending + os.countP Occurrence.isAccepted) :
    Accounts own 0 s t os (nature :: passes) (nested ++ List.replicate k nature) where
  toCounts := counts
  reads := fun tally quiet _ => by simpa using reads tally quiet
  pending := by
    rw [List.length_append, List.length_replicate, ← Nat.add_assoc]
    exact pending

theorem pump_loopback {s : State} (kind : s.transport.isLoopback = true) :
    pump act s = Loopback.pump act s := by
  have before : s.transport = .loopback s.loopback := loopback_eq kind
  refine (bind_eq (y := s) (t := s) rfl).trans ?_
  rw [before]

/-- A pass that is asked of the transport itself leaves the counters to the client's passes. -/
theorem direct_pump_accountable (willing : Willing act) :
    Accountable (do
      note .pumping
      let r ← pump act
      return Answer.outcome (r.map .count)) := by
  intro s x t run own kind
  obtain ⟨_, u, noted, run⟩ := bind_some run
  obtain ⟨r, v, pumped, run⟩ := bind_some run
  obtain ⟨-, rfl⟩ := pure_some run
  have out : u.outline [] [] = _ := outline_note noted
  have transport : u.transport = s.transport := congrArg Outline.transport out
  have kind' : u.transport.isLoopback = true := by rw [transport, kind]
  rw [pump_loopback kind'] at pumped
  obtain ⟨os, passes, nested, counts, reads, pending⟩ := pump_counts willing true kind' pumped
  have asks : Counts s u [.pumping] 0 0 :=
    .still kind' (congrArg Outline.stats out) (congrArg Outline.history out) rfl
  have direct : Nature.of true u.loopback.isConnected = .direct := rfl
  rw [direct] at reads
  have account : Accounts own 0 s v ([.pumping] ++ os) (.direct :: passes)
      (nested ++ List.replicate u.loopback.queue.length .direct) := by
    refine .of_pass ?_ ?_ ?_
    · simpa [List.count_append, List.count_replicate, List.count_cons] using asks.trans counts
    · intro tally quiet
      obtain ⟨callbacks, made, read⟩ := reads (tally.read .pumping) rfl
      refine ⟨callbacks, made, ?_⟩
      rw [Tally.readAll_append]
      refine Eq.trans read ?_
      simp [Tally.read, Tally.more, quiet]
    · rw [← transport, pending]
      simp [Occurrence.isAccepted]
  exact ⟨_, _, _, account⟩

/-- A pass that the client finishes goes into its counters, with its callbacks. -/
theorem passFinished_counts {s t u : State} {x y : Unit} {k : Nat}
    (kind : s.transport.isLoopback = true)
    (counted : count (fun stats =>
      { stats with
        iterations := Stats.bump stats.iterations 1
        callbacks := Stats.bump stats.callbacks k }) s = some (x, t))
    (noted : note (.passFinished k) t = some (y, u)) :
    u.transport = s.transport ∧ Counts s u [.passFinished k] 1 k := by
  have out : u.outline [] [] = _ := outline_note noted
  rw [outline_count counted] at out
  have transport : u.transport = s.transport := congrArg Outline.transport out
  have stats : u.stats = _ := congrArg Outline.stats out
  refine ⟨transport, ?_, congrArg Outline.history out, ?_, ?_, ?_⟩
  · rw [transport, kind]
  · intro n before
    rw [stats]
    show Stats.bump s.stats.iterations 1 = _
    rw [before, capped_bump]
  · intro n before
    rw [stats]
    show Stats.bump s.stats.callbacks _ = _
    rw [before, capped_bump]
  · intro n before
    rw [stats]
    exact before

/-- The client counts its passes over an open transport, with their callbacks, and no others. -/
theorem runIterate_accountable (willing : Willing act) : Accountable (runIterate act) := by
  intro s x t run own kind
  obtain ⟨r, u, pumped, run⟩ := bind_some run
  have before : s.transport = .loopback s.loopback := loopback_eq kind
  have result := loopback_pump_result before pumped
  rw [pump_loopback kind] at pumped
  obtain ⟨os, passes, nested, counts, reads, pending⟩ := pump_counts willing false kind pumped
  have quietly : ∀ tally : Tally, tally.asked = false → ∃ callbacks,
      callbacks.Perm (nested ++ List.replicate s.loopback.queue.length
        (.of false s.loopback.isConnected)) ∧
      tally.readAll os = tally.more (.of false s.loopback.isConnected :: passes) callbacks := by
    intro tally quiet
    have same : ({ tally with asked := false } : Tally) = tally := by rw [← quiet]
    have read := reads tally quiet
    rwa [same] at read
  cases state : s.loopback.isConnected with
  | false =>
    rw [state, if_neg Bool.false_ne_true] at result
    subst result
    obtain ⟨-, rfl⟩ := pure_some run
    rw [state] at quietly
    have account : Accounts own 0 s u os (.abandoned :: passes)
        (nested ++ List.replicate s.loopback.queue.length .abandoned) := by
      refine .of_pass ?_ quietly pending
      simpa [List.count_append, List.count_replicate, List.count_cons] using counts
    exact ⟨_, _, _, account⟩
  | true =>
    rw [state, if_pos rfl] at result
    subst result
    rw [state] at quietly
    obtain ⟨_, v, counted, run⟩ := bind_some run
    obtain ⟨_, w, noted, run⟩ := bind_some run
    obtain ⟨transport, finish⟩ := passFinished_counts counts.loopback counted noted
    have account : Accounts own 0 s w (os ++ [.passFinished s.loopback.queue.length])
        (.served :: passes) (nested ++ List.replicate s.loopback.queue.length .served) := by
      refine .of_pass ?_ ?_ ?_
      · simpa [List.count_append, List.count_replicate, List.count_cons] using counts.trans finish
      · intro tally quiet
        obtain ⟨callbacks, made, read⟩ := quietly tally quiet
        refine ⟨callbacks, made, ?_⟩
        rw [Tally.readAll_append, read]
        rfl
      · rw [transport, pending, List.countP_append]
        rfl
    have first : Calls own 0 s w := fun _ => ⟨_, _, _, account⟩
    -- what is left of the pass hands out what the catcher holds
    refine first.trans (Accountable.bind (rethrow_accountable .client) ?_ w x t run own) kind
    intro found
    cases found with
    | none => exact .of_pure _
    | some e =>
      refine .bind (count_accountable fun _ => ⟨rfl, rfl, rfl⟩) fun _ => ?_
      exact .bind (note_accountable rfl) fun _ => .of_pure _

/-! ### Steps -/

theorem waitOr_accountable (cell : Nat) (deadline : Option Nat)
    {goOn : Run (Except Failure Payload)} (h : Accountable goOn) :
    Accountable (waitOr cell deadline goOn) := by
  refine .bind (.of_silent (silent_takeOutcome cell)) fun found => ?_
  cases found with
  | some outcome => exact .of_pure _
  | none =>
    refine .bind (.of_silent (silent_hasCome deadline)) fun isLate => ?_
    cases isLate with
    | true =>
      refine .bind (.of_silent .of_get) fun s => ?_
      exact .bind (note_accountable rfl) fun _ => .of_pure _
    | false => exact h

theorem exhausted_accountable {α : Type} : Accountable (exhausted : Run α) := by
  intro s x t run
  cases run

theorem wait_accountable (willing : Willing act) (passes cell : Nat) :
    Accountable (wait passes act cell) := by
  refine .bind (.of_silent silent_steadyTime) fun start => ?_
  refine .bind (.of_silent .of_get) fun s => ?_
  generalize deadline? start s.config.requestTimeout = deadline
  induction passes with
  | zero => exact waitOr_accountable cell deadline exhausted_accountable
  | succ passes ih =>
    refine waitOr_accountable cell deadline (.bind (runIterate_accountable willing) fun r => ?_)
    cases r with
    | error e => exact .of_pure _
    | ok _ => exact ih

theorem parkUnder_accountable (slot : String) (c : Completion)
    (slots : State → List (String × Completion)) (put : List (String × Completion) → State → State)
    (keeps : ∀ l s passes due, (put l s).outline passes due = s.outline passes due) :
    Accountable (parkUnder slot c slots put) := by
  refine .bind (note_accountable rfl) fun _ => ?_
  refine .bind (.of_silent .of_get) fun s => ?_
  refine .bind (.of_silent (.of_modify (keeps _))) fun _ => ?_
  exact .of_silent (silent_dropAny _)

theorem start_accountable (willing : Willing act) (i : Initiation) (c : Completion) :
    Accountable (i.start act c) := by
  cases i with
  | call k => exact submit_accountable willing k c
  | park slot =>
    exact parkUnder_accountable slot c State.slots (fun l s => { s with slots := l })
      fun _ _ _ _ => rfl
  | parkUnit slot =>
    exact parkUnder_accountable slot c State.unitSlots (fun l s => { s with unitSlots := l })
      fun _ _ _ _ => rfl
  | immediate code value =>
    exact .bind (invoke_accountable willing c _ _ _) fun _ => note_accountable rfl

theorem dispatch_accountable (willing : Willing act) (n : Nat) (token : Token) (i : Initiation) :
    Accountable (dispatch n act token i) := by
  cases token with
  | sync =>
    refine .bind (.of_silent silent_newCell) fun cell => ?_
    refine .bind (start_accountable willing i _) fun _ => ?_
    exact .bind (wait_accountable willing n cell) fun _ => .of_pure _
  | future name =>
    refine .bind (.of_silent silent_newCell) fun cell => ?_
    refine .bind (start_accountable willing i _) fun _ => ?_
    exact .bind (.of_silent (.of_modify fun _ _ _ => rfl)) fun _ => .of_pure _
  | deferred name => exact .bind (.of_silent (.of_modify fun _ _ _ => rfl)) fun _ => .of_pure _
  | detached => exact .bind (start_accountable willing i _) fun _ => .of_pure _
  | handler h => exact .bind (start_accountable willing i _) fun _ => .of_pure _

theorem actOnCatcher_accountable (desk : Desk) (a : CatcherAct) :
    Accountable (actOnCatcher desk a) := by
  cases a with
  | store e =>
    refine .bind (note_accountable rfl) fun _ => ?_
    exact .bind (store_accountable desk e) fun _ => .of_pure _
  | look => exact .bind (.of_silent (silent_caught desk)) fun _ => .of_pure _
  | rethrow =>
    refine .bind (rethrow_accountable desk) fun found => ?_
    cases found <;> exact .of_pure _
  | catching ending value =>
    refine .bind (.bind ?_ fun outcome => ?_) fun _ => .of_pure _
    · cases ending.outcome with
      | ok _ => exact .of_pure _
      | error e => exact .bind (note_accountable rfl) fun _ => .of_pure _
    · cases outcome with
      | ok _ => exact .of_pure _
      | error e => exact .bind (store_accountable desk e) fun _ => .of_pure _
  | catchPanic ending value => exact .of_pure _

theorem noteAdded_accountable (answer : Answer) : Accountable (noteAdded answer) := by
  unfold noteAdded
  split
  · split
    · exact note_accountable rfl
    · exact .of_pure _
  · exact .of_pure _

theorem onSpace_accountable (a : SpaceAct) : Accountable (onSpace a) := by
  refine .bind (.of_silent silent_timeOfDay) fun now => ?_
  intro s x t run own kind
  obtain ⟨_, u, got, run⟩ := bind_some run
  cases got
  rcases acted : actOnSpace now s.loopback.space a with ⟨answer, space⟩
  rw [loopback_eq kind] at run
  simp only [acted] at run
  obtain ⟨_, v, put, run⟩ := bind_some run
  obtain ⟨_, w, noted, run⟩ := bind_some run
  obtain ⟨-, rfl⟩ := pure_some run
  have changed : Calls own 0 s v := put_calls put rfl
  exact changed.trans (noteAdded_accountable _ v _ w noted own) kind

theorem setConnected_accountable (isConnected : Bool) : Accountable (setConnected isConnected) := by
  intro s x t run own kind
  obtain ⟨_, u, got, run⟩ := bind_some run
  cases got
  rw [loopback_eq kind] at run
  obtain ⟨_, v, noted, put⟩ := bind_some run
  have told : Calls own 0 s v := by
    cases isConnected with
    | true => exact note_accountable rfl s _ v noted own
    | false => exact note_accountable rfl s _ v noted own
  have same : v.loopback = s.loopback := by cases noted; rfl
  exact told.trans (put_calls put (by rw [same])) kind

theorem failNextSubmit_accountable (status : StatusCode) : Accountable (failNextSubmit status) := by
  intro s x t run own kind
  obtain ⟨_, u, got, run⟩ := bind_some run
  cases got
  rw [loopback_eq kind] at run
  obtain ⟨_, v, noted, put⟩ := bind_some run
  have told : Calls own 0 s v := note_accountable rfl s _ v noted own
  have same : v.loopback = s.loopback := by cases noted; rfl
  exact told.trans (put_calls put (by rw [same])) kind

theorem onLoopback_accountable {f : Loopback → Loopback} (h : ∀ l, (f l).queue = l.queue) :
    Accountable (onLoopback f) := by
  intro s x t run own kind
  have put : (f s.loopback).put s = some (x, t) := by
    cases run
    simp only [loopback_eq kind]
    rfl
  exact put_calls put (h _) kind

theorem onPrepared_accountable (f : Prepared → Prepared) : Accountable (onPrepared f) := by
  intro s x t run own kind
  have same : t = s := by
    cases run
    simp only [loopback_eq kind]
  rw [same]
  exact Accountable.of_pure () s () s rfl own kind

theorem withFuture_accountable (name : String) {f : Nat → Run Answer}
    (h : ∀ cell, Accountable (f cell)) : Accountable (withFuture name f) := by
  refine .bind (.of_silent .of_get) fun s => ?_
  split
  · exact h _
  · exact .of_pure _

theorem lookAt_accountable (cell : Nat) : Accountable (lookAt cell) := by
  refine .bind (.of_silent (silent_takeOutcome cell)) fun found => ?_
  cases found <;> exact .of_pure _

theorem trial_accountable (willing : Willing act) (t : Trial) (h : Handler) :
    Accountable (t.run act h) := by
  have delivered : Accountable (t.deliver act (t.adapter h)) := by
    unfold Trial.deliver
    split
    · exact .bind (misdirect_accountable _) fun _ => .of_pure _
    · split
      · exact .bind (conclude_accountable _ willing _ _) fun _ => .of_pure _
      · exact adapter_receive_accountable _ willing _ _
  exact .bind delivered fun _ => .bind (.of_silent (silent_caught .spare)) fun _ => .of_pure _

theorem drop_accountable (r : Receiver) : Accountable r.drop := by
  cases r with
  | adapter s a => exact .of_silent (silent_drop _)
  | probe => exact .of_pure _

theorem perform1_accountable (willing : Willing act) (n : Nat) (step : Step) :
    Accountable (perform1 n act step) := by
  cases step with
  | call c token => exact dispatch_accountable willing n token _
  | start slot token => exact dispatch_accountable willing n token _
  | startUnit slot token => exact dispatch_accountable willing n token _
  | immediate code value token => exact dispatch_accountable willing n token _
  | launch name token =>
    refine .bind (.of_silent .of_get) fun s => ?_
    split
    · exact .of_pure _
    · refine .bind (.of_silent (.of_modify fun _ _ _ => rfl)) fun _ => ?_
      exact dispatch_accountable willing n token _
  | tryAdapter trial h => exact trial_accountable willing trial h
  | submitRaw service body h =>
    refine .bind (handOver_accountable _ _ _) fun r => ?_
    cases r with
    | ok id => exact .of_pure _
    | error e => exact .bind (drop_accountable _) fun _ => .of_pure _
  | run => exact .bind (runIterate_accountable willing) fun _ => .of_pure _
  | pump => exact direct_pump_accountable willing
  | close => exact .bind (setConnected_accountable false) fun _ => .of_pure _
  | reopen => exact .bind (setConnected_accountable true) fun _ => .of_pure _
  | failNextSubmit status => exact .bind (failNextSubmit_accountable status) fun _ => .of_pure _
  | dropNextResponse => exact .bind (onLoopback_accountable fun _ => rfl) fun _ => .of_pure _
  | config => exact .bind (.of_silent .of_get) fun _ => .of_pure _
  | describe subject => exact .bind (.of_silent .of_get) fun _ => .of_pure _
  | catcher desk a => exact actOnCatcher_accountable desk a
  | take name => exact withFuture_accountable name lookAt_accountable
  | poll name => exact withFuture_accountable name lookAt_accountable
  | wait name =>
    refine withFuture_accountable name fun cell => ?_
    refine .bind (.of_silent (.of_modify fun _ _ _ => rfl)) fun _ => ?_
    exact .bind (wait_accountable willing n cell) fun _ => .of_pure _
  | forget name =>
    refine withFuture_accountable name fun _ => ?_
    exact .bind (.of_silent (.of_modify fun _ _ _ => rfl)) fun _ => .of_pure _
  | forgetDeferred name =>
    refine .bind (.of_silent .of_get) fun _ => ?_
    exact .bind (.of_silent (.of_modify fun _ _ _ => rfl)) fun _ => .of_pure _
  | complete slot code value =>
    refine .bind (.of_silent .of_get) fun s => ?_
    split
    · refine .bind (.of_silent (.of_modify fun _ _ _ => rfl)) fun _ => ?_
      exact .bind (invoke_accountable willing _ _ _ _) fun _ => .of_pure _
    · split
      · refine .bind (.of_silent (.of_modify fun _ _ _ => rfl)) fun _ => ?_
        exact .bind (invoke_accountable willing _ _ _ _) fun _ => .of_pure _
      · exact .of_pure _
  | abandon slot =>
    refine .bind (.of_silent .of_get) fun s => ?_
    refine .bind (.of_silent (.of_modify fun _ _ _ => rfl)) fun _ => ?_
    refine .bind (.of_silent (silent_dropAny _)) fun _ => ?_
    exact .bind (.of_silent (silent_dropAny _)) fun _ => .of_pure _
  | space a => exact onSpace_accountable a
  | plan p => exact .bind (onPrepared_accountable _) fun _ => .of_pure _
  | planPass p => exact .bind (onPrepared_accountable _) fun _ => .of_pure _

end

theorem perform_accountable (depth : Nat) (step : Step) : Accountable (perform depth step) := by
  induction depth generalizing step with
  | zero => exact exhausted_accountable
  | succ depth ih =>
    have willing : Willing (perform depth) := fun step =>
      .bind (note_accountable rfl) fun _ => ih step
    exact perform1_accountable willing depth step

/-! ### Between steps -/

theorem playFrom_calls {depth seen : Nat} {own : Nature} {s : State} {steps : List Step}
    {reports : List Report} (run : playFrom depth seen s steps = some reports) :
    ∀ report ∈ reports, Calls own 0 s report.after := by
  induction steps generalizing s seen reports with
  | nil =>
    cases run
    simp
  | cons step rest ih =>
    obtain ⟨⟨answer, t⟩, first, run⟩ := Option.bind_eq_some_iff.mp run
    obtain ⟨later, played, run⟩ := Option.bind_eq_some_iff.mp run
    cases run
    have one : Calls own 0 s t := perform_accountable depth step s answer t first own
    intro report member
    rcases List.mem_cons.mp member with rfl | member
    · exact one
    · exact one.trans (ih played report member)

/-- The client's own among some passes, or among the passes of some callbacks. -/
def ownAmong (natures : List Nature) : Nat :=
  natures.count .served + natures.count .abandoned

/-- A session over the loopback transport whose counters, as long as they do not reach their limit,
show the client's passes over an open transport, the callbacks in these, and the requests that the
client submitted. The passes over a closed transport are what they leave out. -/
structure State.Tallied (s : State) : Prop where
  iterations : (passesIn s.history).length < UInt64.size →
    s.stats.iterations = (passesIn s.history).count .served
  callbacks : (callbacksIn s.history).length < UInt64.size →
    s.stats.callbacks = (callbacksIn s.history).count .served
  submitted : s.history.countP Occurrence.isSubmitted < UInt64.size →
    s.stats.submitted = s.history.countP Occurrence.isSubmitted
  /-- Every request that was accepted was called back, or is queued. -/
  pending : (callbacksIn s.history).length + s.transport.pending =
    s.history.countP Occurrence.isAccepted
  allPasses : (passesIn s.history).length < UInt64.size →
    (s.stats.iterations = ownAmong (passesIn s.history) ↔ .abandoned ∉ passesIn s.history)
  allCallbacks : (callbacksIn s.history).length < UInt64.size →
    (s.stats.callbacks = ownAmong (callbacksIn s.history) ↔ .abandoned ∉ callbacksIn s.history)
  /-- Where all requests were submitted by the client, and called back in its passes. -/
  balance : s.history.countP Occurrence.isAccepted < UInt64.size →
    s.history.countP Occurrence.isAccepted = s.history.countP Occurrence.isSubmitted →
    .direct ∉ callbacksIn s.history →
    (s.stats.submitted = s.stats.callbacks + s.transport.pending ↔
      .abandoned ∉ callbacksIn s.history)

theorem length_eq_own (natures : List Nature) :
    natures.length = ownAmong natures + natures.count .direct := by
  unfold ownAmong
  induction natures with
  | nil => rfl
  | cons nature rest ih =>
    cases nature <;> simp [ih] <;> omega

theorem capped_eq {n : Nat} (h : n < UInt64.size) : capped n = n := by
  unfold capped
  omega

/-- What is accounted for from the beginning is tallied. -/
theorem Calls.tallied {own : Nature} {config : Config} {clocks : Clocks} {l : Loopback} {s : State}
    (empty : l.queue = []) (calls : Calls own 0 (.start config (.loopback l) clocks) s) :
    s.Tallied := by
  obtain ⟨os, passes, nested, accounts⟩ := calls rfl
  have history : s.history = [.clientCreated config.endpoint config.applicationName] ++ os :=
    accounts.history
  obtain ⟨callbacks, made, read⟩ := accounts.reads {} rfl fun some => absurd rfl some
  have whole : Tally.readAll {} s.history = Tally.more {} passes callbacks := by
    rw [history, ← read]
    rfl
  have isPasses : passesIn s.history = passes := congrArg Tally.passes whole
  have isCallbacks : callbacksIn s.history = callbacks := congrArg Tally.callbacks whole
  have same : callbacks.Perm nested := by simpa using made
  have accepted : s.history.countP Occurrence.isAccepted = os.countP Occurrence.isAccepted := by
    rw [history]
    rfl
  have submitted : s.history.countP Occurrence.isSubmitted = os.countP Occurrence.isSubmitted := by
    rw [history]
    rfl
  have pending : callbacks.length + s.transport.pending = os.countP Occurrence.isAccepted := by
    have sum := accounts.pending
    have none : (State.start config (.loopback l) clocks).transport.pending = 0 :=
      congrArg List.length empty
    rw [same.length_eq]
    omega
  have countsPasses : passes.length < UInt64.size → s.stats.iterations = passes.count .served := by
    intro small
    have most : passes.count .served ≤ passes.length := List.count_le_length
    rw [accounts.iterations 0 rfl, capped_eq (by omega), Nat.zero_add]
  have countsCallbacks : callbacks.length < UInt64.size →
      s.stats.callbacks = callbacks.count .served := by
    intro small
    have most : callbacks.count .served ≤ callbacks.length := List.count_le_length
    rw [accounts.callbacks 0 rfl, ← same.count_eq, capped_eq (by omega), Nat.zero_add]
  have countsSubmitted : os.countP Occurrence.isSubmitted < UInt64.size →
      s.stats.submitted = os.countP Occurrence.isSubmitted := by
    intro small
    rw [accounts.submitted 0 rfl, capped_eq (by omega), Nat.zero_add]
  constructor
  all_goals simp only [isPasses, isCallbacks, accepted, submitted]
  · exact countsPasses
  · exact countsCallbacks
  · exact countsSubmitted
  · exact pending
  · intro small
    rw [countsPasses small, ownAmong, ← List.count_eq_zero]
    omega
  · intro small
    rw [countsCallbacks small, ownAmong, ← List.count_eq_zero]
    omega
  · intro small allSubmitted noneDirect
    have sum := length_eq_own callbacks
    rw [ownAmong, List.count_eq_zero.mpr noneDirect] at sum
    rw [countsSubmitted (by omega), countsCallbacks (by omega), ← allSubmitted, ← pending,
      ← List.count_eq_zero]
    omega

/-- Between steps the counters of a client over the loopback transport stand at its passes over an
open transport and the callbacks in these, so they balance unless callbacks were abandoned. -/
theorem counters_balance_iff_none_abandoned {depth maxPending : Nat} {config : Config}
    {clocks : Clocks} {space : AddressSpace} {steps : List Step} {reports : List Report}
    (run : play depth (.start config (.loopback { space, maxPending }) clocks) steps =
      some reports) :
    ∀ report ∈ reports, report.after.Tallied := by
  intro report member
  have calls : Calls .served 0 _ report.after := playFrom_calls run report member
  exact calls.tallied rfl

/-- A handler that pumps, a synchronous call, and a request that is abandoned: the last pass is the
client's own, and it is not counted. -/
theorem abandoned_pass_not_counted :
    ∃ reports,
      play 5
        (.start {} (.loopback { space := .empty, maxPending := 0 }) ⟨fun _ => .epoch, id, 0, 0⟩)
        [.call (.readValue .null) (.handler (.mk "outer" false fun _ _ =>
            ([.call (.readValue .null) .detached, .pump], .done))),
          .run, .call (.readValue .null) .sync, .call (.readValue .null) .detached, .close,
          .run] = some reports ∧
      (∀ report ∈ reports, report.after.Tallied) ∧
      ∃ report ∈ reports,
        report.after.stats.iterations ≠ ownAmong (passesIn report.after.history) := by
  refine ends_well (Q := fun reports => ∃ report ∈ reports,
      (passesIn report.after.history).length < UInt64.size ∧
        .abandoned ∈ passesIn report.after.history) (by decide +kernel) ?_
  rintro reports run ⟨report, member, small, abandons⟩
  have tallied := counters_balance_iff_none_abandoned run
  refine ⟨tallied, report, member, fun same => ?_⟩
  exact ((tallied report member).allPasses small).mp same abandons

end OpcUa.Client
