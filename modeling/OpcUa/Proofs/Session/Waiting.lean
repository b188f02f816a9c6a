import OpcUa.Proofs.Session.KeptPromises
import OpcUa.Proofs.Session.OneOutcome

/-!
When waiting comes to an end. The pass that a wait makes calls back all that is queued, so one pass
is enough for a future that a queued request tells; a future that has its outcome needs none. A
request that a pass under way has taken is in no queue: waiting for it inside that pass, without a
deadline, goes on forever.
-/

namespace OpcUa.Client

open Run

/-- The callbacks of a pass that begins here, and the handlers that they call, come to an end. -/
def State.HandlersEnd (act : Act) (s : State) : Prop :=
  ∃ t, callBackAll act s.loopback.isConnected s.loopback.queue (s.emptied s.loopback) = some ((), t)

/-! ### What a pass tells -/

section
variable {act : Act} {s t : State} {q : Queued} {cell : Nat}

theorem Completion.eq_future {c : Completion} (tells : c.cell? = some cell) : c = .future cell := by
  cases c with
  | future other => exact congrArg Completion.future (Option.some.inj tells)
  | nobody | handler h => cases tells

theorem callBack_tells (paying : Paying act) {response : Option AnyResponse} {x : Unit}
    (kind : s.transport.isLoopback = true) (tells : q.receiver.cell? = some cell)
    (known : cell < s.cells.size) (run : q.callBack act response s = some (x, t)) :
    ¬ t.Waits cell := by
  obtain ⟨_, u, noted, run⟩ := bind_some run
  obtain ⟨first, -⟩ := note_pays _ s _ u kind noted
  cases told : q.receiver with
  | probe =>
    rw [told] at tells
    cases tells
  | adapter service a =>
    rw [told] at tells run
    obtain ⟨rest, v, received, run⟩ := bind_some run
    obtain ⟨-, rfl⟩ := pure_some run
    obtain ⟨-, status, payload, w, -, took, concludes⟩ := receive_concludes received
    -- the transform may have made futures, but it has not let go of this one
    obtain ⟨second, -⟩ := takeSteps_pays paying _ u _ w first.isLoopback took
    have resolved := concludes_resolves concludes (Completion.eq_future tells)
      (second.known (first.known known))
    intro waits
    unfold State.Waits at waits
    rw [resolved] at waits
    cases waits

theorem serve_tells (paying : Paying act) {x : Unit} (kind : s.transport.isLoopback = true)
    (tells : q.receiver.cell? = some cell) (known : cell < s.cells.size)
    (run : Loopback.serve act q s = some (x, t)) : ¬ t.Waits cell := by
  obtain ⟨now, u, looked, run⟩ := bind_some run
  obtain ⟨_, _, got, run⟩ := bind_some run
  cases got
  rcases answered : u.loopback.answer now q with ⟨response, os, l⟩
  rw [answered] at run
  obtain ⟨_, v, put, run⟩ := bind_some run
  obtain ⟨_, w, listed, run⟩ := bind_some run
  obtain ⟨_, y, noted, run⟩ := bind_some run
  obtain ⟨looks, -⟩ := timeOfDay_pays s _ u kind looked
  obtain ⟨puts, -⟩ := put_pays put (Loopback.answer_keeps answered).1
  obtain ⟨lists, -⟩ := noteAll_pays _ v _ w puts.isLoopback listed
  obtain ⟨notes, -⟩ := note_pays _ w _ y lists.isLoopback noted
  have forward : Forward s y := ((looks.trans puts).trans lists).trans notes
  exact callBack_tells paying forward.isLoopback tells (forward.known known) run

def Queued.handle (act : Act) (isConnected : Bool) (q : Queued) : Run Unit :=
  if isConnected then Loopback.serve act q else q.callBack act none

theorem callBackAll_cons (isConnected : Bool) (rest : List Queued) :
    callBackAll act isConnected (q :: rest) =
      (do q.handle act isConnected; callBackAll act isConnected rest) := by
  cases isConnected <;> rfl

theorem handle_pays (paying : Paying act) (isConnected : Bool) (q : Queued) :
    Pays q.receiver.cell?.toList (q.handle act isConnected) := by
  cases isConnected with
  | true => exact serve_pays paying q
  | false => exact callBack_pays paying q none

theorem handle_tells (paying : Paying act) {isConnected : Bool} {x : Unit}
    (kind : s.transport.isLoopback = true) (tells : q.receiver.cell? = some cell)
    (known : cell < s.cells.size) (run : q.handle act isConnected s = some (x, t)) :
    ¬ t.Waits cell := by
  cases isConnected with
  | true => exact serve_tells paying kind tells known run
  | false => exact callBack_tells paying kind tells known run

theorem callBackAll_tells (paying : Paying act) {isConnected : Bool} {batch : List Queued} {x : Unit}
    (kind : s.transport.isLoopback = true) (member : q ∈ batch)
    (tells : q.receiver.cell? = some cell) (known : cell < s.cells.size)
    (run : callBackAll act isConnected batch s = some (x, t)) : ¬ t.Waits cell := by
  induction batch generalizing s with
  | nil => cases member
  | cons first rest ih =>
    rw [callBackAll_cons] at run
    obtain ⟨_, u, handled, others⟩ := bind_some run
    obtain ⟨forward, -⟩ := handle_pays paying _ first s _ u kind handled
    have known' : cell < u.cells.size := forward.known known
    rcases List.mem_cons.mp member with rfl | later
    · -- told by the first callback, and the others do not make it wait again
      have told : ¬ u.Waits cell := handle_tells paying kind tells known handled
      obtain ⟨forward', -⟩ := callBackAll_pays paying _ rest u _ t forward.isLoopback others
      exact fun waits => told (forward'.waits cell known' waits)
    · exact ih forward.isLoopback later known' others

theorem runIterate_tells (paying : Paying act) {r : Except Failure Nat}
    (kind : s.transport.isLoopback = true) (queued : s.Queues cell) (known : cell < s.cells.size)
    (run : runIterate act s = some (r, t)) : ¬ t.Waits cell := by
  obtain ⟨q, member, tells⟩ := queued
  rw [runIterate_eq] at run
  obtain ⟨passed, v, pumped, finished⟩ := bind_some run
  rw [pump_eq (loopback_eq kind)] at pumped
  obtain ⟨_, u, called, ended⟩ := bind_some pumped
  have began : Forward s (s.emptied s.loopback) := .of_cells rfl rfl
  obtain ⟨forward, -⟩ := callBackAll_pays paying _ _ _ _ _ began.isLoopback called
  have told : ¬ u.Waits cell := callBackAll_tells paying began.isLoopback member tells known called
  obtain ⟨forward', -⟩ := endPass_pays _ _ u _ v forward.isLoopback ended
  obtain ⟨forward'', -⟩ := finishPass_pays _ v _ t forward'.isLoopback finished
  have later : Forward u t := forward'.trans forward''
  exact fun waits => told (later.waits cell (forward.known known) waits)

/-! ### Waits that end -/

theorem endPass_ends (isConnected : Bool) (n : Nat) (s : State) :
    ∃ r t, endPass isConnected n s = some (r, t) := by
  cases isConnected <;> exact ⟨_, _, rfl⟩

theorem finishPass_ends (r : Except Failure Nat) (s : State) :
    ∃ r' t, finishPass r s = some (r', t) := by
  cases r with
  | error e => exact ⟨_, _, rfl⟩
  | ok n =>
    cases held : s.caught with
    | none => exact ⟨_, _, finishPass_quiet held n⟩
    | some e =>
      have found : caught .client (s.finished n) = some (some e, s.finished n) := by
        rw [caught_run, ← held]
        rfl
      obtain ⟨t, taken⟩ : ∃ t, rethrow .client (s.finished n) = some (some e, t) :=
        ⟨_, bind_eq found⟩
      have counted : finishPass (.ok n) s = _ :=
        (bind_eq (y := ()) rfl).trans (bind_eq (y := ()) rfl)
      exact ⟨_, _, counted.trans (bind_eq taken)⟩

theorem runIterate_ends (kind : s.transport.isLoopback = true) (ends : s.HandlersEnd act) :
    ∃ r t, runIterate act s = some (r, t) := by
  obtain ⟨u, called⟩ := ends
  obtain ⟨r, v, ended⟩ := endPass_ends s.loopback.isConnected s.loopback.queue.length u
  obtain ⟨r', t, finished⟩ := finishPass_ends r v
  have pumped : pump act s = some (r, v) :=
    (pump_eq (loopback_eq kind)).trans ((bind_eq called).trans ended)
  exact ⟨r', t, (bind_eq pumped).trans finished⟩

/-- A request that no application code is called back for. -/
def Queued.Quiet (q : Queued) : Prop :=
  ∀ service a, q.receiver = .adapter service a →
    (∀ r, a.during r = []) ∧ ∀ h, a.completion ≠ .handler h

theorem callBack_quiet (quiet : q.Quiet) (response : Option AnyResponse) (s : State) :
    ∃ t, q.callBack act response s = some ((), t) := by
  let u : State := { s with journal := s.journal.push (.calledBack q.id response) }
  have reached : q.callBack act response s = q.receiver.receive act q.id response u :=
    bind_eq (y := ()) rfl
  rw [reached]
  cases told : q.receiver with
  | probe => exact ⟨_, rfl⟩
  | adapter service a =>
    obtain ⟨still, noHandler⟩ := quiet service a told
    have took : takeSteps act (a.stepsFor (response.bind (·.as? service))) u = some ((), u) := by
      have nothing : a.stepsFor (response.bind (·.as? service)) = [] := by
        cases response.bind (·.as? service) with
        | none => rfl
        | some r => exact still r
      rw [nothing]
      rfl
    obtain ⟨rest, t, received⟩ := @receive_ends act _ a q.id u _ u took fun _ _ _ _ _ => by
      cases completion : a.completion with
      | future cell => exact ⟨_, invoke_iff.mpr (.future cell)⟩
      | nobody => exact ⟨_, invoke_iff.mpr .nobody⟩
      | handler h => exact absurd completion (noHandler h)
    exact ⟨t, bind_eq received⟩

theorem handle_quiet (quiet : q.Quiet) (isConnected : Bool) (s : State) :
    ∃ t, q.handle act isConnected s = some ((), t) := by
  cases isConnected with
  | false => exact callBack_quiet quiet none s
  | true =>
    let u : State := { s with clocks := { s.clocks with dayLooks := s.clocks.dayLooks + 1 } }
    rcases answered : u.loopback.answer (s.clocks.day s.clocks.dayLooks) q with ⟨response, os, l⟩
    let v : State :=
      { u with
        transport := .loopback l
        journal := (u.journal ++ os.toArray).push (.served q.id q.service q.body response) }
    obtain ⟨t, called⟩ := @callBack_quiet act q quiet response v
    refine ⟨t, ?_⟩
    refine (bind_eq (y := s.clocks.day s.clocks.dayLooks) (t := u) rfl).trans ?_
    refine (bind_eq (y := u) (t := u) rfl).trans ?_
    rw [answered]
    exact called

theorem callBackAll_quiet (isConnected : Bool) {batch : List Queued} (quiet : ∀ q ∈ batch, q.Quiet)
    (s : State) : ∃ t, callBackAll act isConnected batch s = some ((), t) := by
  induction batch generalizing s with
  | nil =>
    cases isConnected <;> exact ⟨s, rfl⟩
  | cons q rest ih =>
    obtain ⟨u, handled⟩ := @handle_quiet act q (quiet q List.mem_cons_self) isConnected s
    obtain ⟨t, others⟩ := ih (fun other member => quiet other (List.mem_cons_of_mem _ member)) u
    rw [callBackAll_cons]
    exact ⟨t, (bind_eq handled).trans others⟩

theorem State.HandlersEnd.of_quiet (quiet : ∀ q ∈ s.loopback.queue, q.Quiet) : s.HandlersEnd act :=
  callBackAll_quiet _ quiet _

theorem takeOutcome_ends (settled : ¬ s.Waits cell) :
    ∃ outcome t, takeOutcome cell s = some (some outcome, t) := by
  have found := getCell_run cell s
  cases content : s.cells[cell]? with
  | none =>
    rw [content] at found
    exact ⟨_, _, bind_eq found⟩
  | some c =>
    rw [content] at found
    cases c with
    | waiting => exact absurd content settled
    | ready outcome => exact ⟨_, _, bind_eq found⟩
    | spent => exact ⟨_, _, bind_eq found⟩

theorem waitFor_settled (settled : ¬ s.Waits cell) (deadline : Option Nat) (passes : Nat) :
    ∃ outcome t, waitFor act cell deadline passes s = some (outcome, t) := by
  obtain ⟨outcome, t, took⟩ := takeOutcome_ends settled
  cases passes <;> exact ⟨outcome, t, bind_eq took⟩

theorem wait_eq (passes cell : Nat) (s : State) :
    wait passes act cell s = waitFor act cell s.deadline? passes (s.later 1) := rfl

theorem waitOr_late {deadline : Option Nat} {goOn : Run (Except Failure Payload)} {d : Nat}
    (isDeadline : deadline = some d) (late : d ≤ s.clocks.steady s.clocks.steadyLooks) :
    ∃ outcome t, waitOr cell deadline goOn s = some (outcome, t) := by
  by_cases waits : s.Waits cell
  · have found := getCell_run cell s
    rw [waits] at found
    have nothing : takeOutcome cell s = some (none, s) := bind_eq found
    have isLate : hasCome deadline s = some (true, s.later 1) := by
      rw [isDeadline]
      show some (decide (s.clocks.steady s.clocks.steadyLooks ≥ d), s.later 1) = _
      rw [decide_eq_true late]
    exact ⟨_, _, (bind_eq nothing).trans (bind_eq isLate)⟩
  · obtain ⟨outcome, t, took⟩ := takeOutcome_ends waits
    exact ⟨outcome, t, bind_eq took⟩

theorem waitFor_ends (paying : Paying act) (kind : s.transport.isLoopback = true)
    {deadline : Option Nat}
    (ends : s.Waits cell → s.Queues cell ∧ (s.later deadline.toList.length).HandlersEnd act)
    (passes : Nat) :
    ∃ outcome t, waitFor act cell deadline (passes + 1) s = some (outcome, t) := by
  by_cases waits : s.Waits cell
  · obtain ⟨queued, handlersEnd⟩ := ends waits
    by_cases early : ∀ d, deadline = some d → s.clocks.steady s.clocks.steadyLooks < d
    · have begins : (s.later deadline.toList.length).transport.isLoopback = true := kind
      obtain ⟨r, t, passed⟩ := runIterate_ends begins handlersEnd
      -- The pass has told the future, so the next look at it finds the outcome.
      have settled : ¬ t.Waits cell := runIterate_tells paying begins queued waits.known passed
      have reached : waitFor act cell deadline (passes + 1) s = _ := waitOr_waiting waits early
      rw [reached]
      cases r with
      | error e => exact ⟨_, _, bind_eq passed⟩
      | ok n =>
        obtain ⟨outcome, u, ended⟩ := @waitFor_settled act t cell settled deadline passes
        exact ⟨outcome, u, (bind_eq passed).trans ended⟩
    · push Not at early
      obtain ⟨d, isDeadline, late⟩ := early
      exact waitOr_late isDeadline late
  · exact waitFor_settled waits _ _

/-- A wait ends after at most one pass if a queued request tells the future, unless it needs none. -/
theorem wait_ends (paying : Paying act) (kind : s.transport.isLoopback = true)
    (ends : s.Waits cell → s.Queues cell ∧ (s.later s.looksOfWait).HandlersEnd act)
    (passes : Nat) : ∃ outcome t, wait (passes + 1) act cell s = some (outcome, t) := by
  rw [wait_eq]
  have begins : (s.later 1).transport.isLoopback = true := kind
  refine waitFor_ends paying begins (fun waits => ?_) passes
  rw [later_later]
  exact ends waits

/-! ### Starting -/

/-- The state in which a new future is there, and nobody is to tell it yet. -/
def State.withCell (s : State) : State := { s with cells := s.cells.push .waiting }

/-- A call for a new future ends with its request in the queue, or with the future told. -/
theorem submit_future (kind : s.transport.isLoopback = true) (k : Call) :
    ∃ u, submit act k (.future s.cells.size) s.withCell = some ((), u) ∧
      u.transport.isLoopback = true ∧ (u.Waits s.cells.size → u.Queues s.cells.size) := by
  have loopback : s.withCell.transport = .loopback s.loopback := loopback_eq kind
  rcases s.loopback.submit_cases with ⟨status, rejects⟩ | ⟨-, accepts⟩
  · have told (v : State) :
        (k.adapter s.withCell.operations (.future s.cells.size)).conclude act status k.fallback v =
          some ((), v.told .sync s.cells.size s.withCell.operations status k.fallback) :=
      conclude_told .sync rfl rfl rfl status k.fallback v
    refine ⟨_, (submit_rejected loopback rejects).trans (told _), rfl, fun waits => ?_⟩
    have known : s.cells.size < (s.cells.push .waiting).size := by simp
    have filled : ((s.cells.push Cell.waiting).setIfInBounds s.cells.size
        (.ready (futureOutcome status k.fallback)))[s.cells.size]? = some .waiting := waits
    rw [Array.getElem?_setIfInBounds_self_of_lt known] at filled
    cases filled
  · refine ⟨_, submit_accepted loopback accepts, rfl, fun _ => ?_⟩
    exact ⟨_, List.mem_append_right _ (List.mem_singleton_self _), rfl⟩

theorem future_started (kind : s.transport.isLoopback = true) (passes : Nat) (k : Call)
    (name : String) :
    ∃ t, dispatch passes act (.future name) (.call k) s = some (.started, t) ∧
      t.futures.lookup name = some s.cells.size ∧
      (t.Waits s.cells.size → t.Queues s.cells.size) := by
  obtain ⟨u, started, -, queues⟩ := @submit_future act s kind k
  refine ⟨{ u with futures := assign name s.cells.size u.futures },
    (bind_eq (newCell_run s)).trans (bind_eq started), ?_, queues⟩
  rw [lookup_assign, if_pos rfl]

theorem sync_ends (paying : Paying act) (kind : s.transport.isLoopback = true) {u : State} {k : Call}
    (started : submit act k (.future s.cells.size) s.withCell = some ((), u))
    (ends : u.Waits s.cells.size → (u.later u.looksOfWait).HandlersEnd act) (passes : Nat) :
    ∃ outcome t, dispatch (passes + 1) act .sync (.call k) s = some (.outcome outcome, t) := by
  obtain ⟨v, started', kind', queues⟩ := @submit_future act s kind k
  obtain rfl : u = v := by
    rw [started] at started'
    exact (Prod.mk.inj (Option.some.inj started')).2
  obtain ⟨outcome, t, waited⟩ :=
    wait_ends paying kind' (fun waits => ⟨queues waits, ends waits⟩) passes
  exact ⟨outcome, t, (bind_eq (newCell_run s)).trans ((bind_eq started).trans (bind_eq waited))⟩

/-! ### Waits that do not end -/

/-- A timeout that no deadline can represent, whenever the wait begins. -/
def Endless (timeout : Duration) : Prop := ∀ start, deadline? start timeout = none

/-- The seconds of such a timeout alone do not fit. -/
theorem endless_iff (timeout : Duration) :
    Endless timeout ↔ Int64.maxValue.toInt < timeout.seconds.toNat := by
  have small := timeout.nanos_lt
  have nanos : timeout.toNanos = timeout.seconds.toNat * 1000000000 + timeout.nanos := rfl
  unfold Endless deadline?
  rw [nanos]
  generalize Int64.maxValue.toInt = greatest
  constructor
  · intro endless
    have first := endless 0
    by_contra few
    rw [if_pos (by omega)] at first
    cases first
  · intro many start
    rw [if_neg (by omega)]

/-- Nothing is queued, nothing will fail, and a future waits. -/
structure State.Idle (s : State) (cell : Nat) : Prop where
  transport : ∃ l, s.transport = .loopback l ∧ l.isConnected = true ∧ l.queue = []
  caught : s.caught = none
  waits : s.Waits cell

/-- A pass over an empty queue changes nothing that a wait looks at. -/
theorem idle_pass (idle : s.Idle cell) :
    ∃ t, runIterate act s = some (.ok 0, t) ∧ t.Idle cell := by
  obtain ⟨⟨l, transport, connected, nothing⟩, empty, waits⟩ := idle
  let ended : State := { s.emptied l with journal := (s.emptied l).journal.push (.passServed 0) }
  have pumped : pump act s = some (.ok 0, ended) := by
    rw [pump_eq transport, connected, nothing]
    rfl
  have quiet : ended.caught = none := empty
  refine ⟨ended.finished 0, (bind_eq pumped).trans (finishPass_quiet quiet 0), ?_⟩
  exact ⟨⟨{ l with queue := [] }, rfl, connected, rfl⟩, empty, waits⟩

/-- Without a deadline such a wait makes one pass after another. -/
theorem waitFor_forever (idle : s.Idle cell) (passes : Nat) :
    waitFor act cell none passes s = none := by
  induction passes generalizing s with
  | zero => exact waitOr_waiting idle.waits (fun d isDeadline => by cases isDeadline)
  | succ passes ih =>
    obtain ⟨t, passed, idle'⟩ := @idle_pass act s cell idle
    have reached : waitFor act cell none (passes + 1) s = _ :=
      waitOr_waiting idle.waits (fun d isDeadline => by cases isDeadline)
    rw [reached]
    exact (bind_eq passed).trans (ih idle')

theorem wait_forever (idle : s.Idle cell) (endless : s.deadline? = none) (passes : Nat) :
    wait passes act cell s = none := by
  rw [wait_eq, endless]
  have later : (s.later 1).Idle cell := ⟨idle.transport, idle.caught, idle.waits⟩
  exact waitFor_forever later passes

/-! ### Waits inside a pass -/

/-- A wait that begins here for the future of this name does not end. -/
structure State.Stuck (s : State) (name : String) (cell : Nat) : Prop where
  idle : s.Idle cell
  named : s.futures.lookup name = some cell
  endless : Endless s.config.requestTimeout

theorem State.Stuck.noted {name : String} (stuck : s.Stuck name cell) (noted : OnlyNotes s t) :
    t.Stuck name cell := by
  obtain ⟨os, rfl⟩ := noted
  exact ⟨⟨stuck.idle.transport, stuck.idle.caught, stuck.idle.waits⟩, stuck.named, stuck.endless⟩

theorem stuck_wait {name : String} (stuck : s.Stuck name cell) (depth : Nat) :
    perform depth (.wait name) s = none := by
  cases depth with
  | zero => rfl
  | succ depth =>
    obtain ⟨idle, named, endless⟩ := stuck
    have reached : perform (depth + 1) (.wait name) s =
        (do
          forgetFuture name
          return Answer.outcome (← wait depth (perform depth) cell)) s := by
      refine (bind_eq (y := s) (t := s) rfl).trans ?_
      rw [named]
    let left : State := { s with futures := without name s.futures }
    have idle' : left.Idle cell := ⟨idle.transport, idle.caught, idle.waits⟩
    have waited : wait depth (perform depth) cell left = none :=
      wait_forever idle' (endless _) depth
    rw [reached]
    refine (bind_eq (y := ()) (t := left) rfl).trans ?_
    simp [bind, StateT.bind, waited]

/-- While a request is being served the queue holds only what was submitted meanwhile. -/
theorem serve_stuck {name : String} {x : Unit} (stuck : s.Stuck name cell)
    (run : Loopback.serve act q s = some (x, t)) :
    ∃ u response, u.Stuck name cell ∧ q.receiver.receive act q.id response u = some ((), t) := by
  obtain ⟨now, u, looked, run⟩ := bind_some run
  obtain ⟨_, _, got, run⟩ := bind_some run
  cases got
  rcases answered : u.loopback.answer now q with ⟨response, os, l⟩
  rw [answered] at run
  obtain ⟨_, v, put, run⟩ := bind_some run
  obtain ⟨_, w, listed, run⟩ := bind_some run
  obtain ⟨_, y, noted, run⟩ := bind_some run
  obtain ⟨_, z, called, run⟩ := bind_some run
  obtain ⟨queue, -, isConnected⟩ := Loopback.answer_keeps answered
  have put_stuck : v.Stuck name cell := by
    obtain ⟨⟨⟨l', transport, connected, nothing⟩, empty, waits⟩, named, endless⟩ := stuck
    cases looked
    cases put
    have found : s.loopback = l' := loopback_of transport
    have open' : l.isConnected = true := isConnected.trans (by rw [← connected, ← found]; rfl)
    have still : l.queue = [] := queue.trans (by rw [← nothing, ← found]; rfl)
    exact ⟨⟨⟨l, rfl, open', still⟩, empty, waits⟩, named, endless⟩
  have notes : OnlyNotes v z := by
    have lists : OnlyNotes v w := by
      cases listed
      exact ⟨_, rfl⟩
    exact (lists.trans (.of_note noted)).trans (.of_note called)
  exact ⟨z, response, put_stuck.noted notes, run⟩

def Handler.WaitsFirst (h : Handler) (name : String) : Prop :=
  ∀ status payload, ∃ rest, (h.react status payload).1 = .wait name :: rest

theorem invoke_stuck {h : Handler} {name : String} {depth : Nat} (stuck : s.Stuck name cell)
    (waitsFirst : h.WaitsFirst name) (on : Occasion) (status : StatusCode) (payload : Payload) :
    (Completion.handler h).invoke (perform depth) on status payload s = none := by
  cases run : (Completion.handler h).invoke (perform depth) on status payload s with
  | none => rfl
  | some result =>
    exfalso
    obtain ⟨outcome, t⟩ := result
    rcases invoke_iff.mp run with _ | _ | ⟨called, takes, -⟩
    obtain ⟨rest, first⟩ := waitsFirst status payload
    rw [first] at takes
    obtain ⟨_, w, took, -⟩ := bind_some takes
    obtain ⟨_, x, noted, waited⟩ := bind_some took
    have notes : OnlyNotes s x :=
      (OnlyNotes.of_noted.trans (.of_note called)).trans (.of_note noted)
    rw [stuck_wait (stuck.noted notes) depth] at waited
    cases waited

/-- A pass in which the first handler waits for a future that waits does not end: while the pass
lasts the requests that it has taken are in no queue. -/
theorem nested_wait_never_ends {l : Loopback} {rest : List Queued} {service : Service}
    {a : Adapter (Response service)} {h : Handler} {name : String}
    (loopback : s.transport = .loopback l) (connected : l.isConnected = true)
    (queue : l.queue = q :: rest) (empty : s.caught = none)
    (endless : Endless s.config.requestTimeout) (receiver : q.receiver = .adapter service a)
    (still : ∀ r, a.during r = []) (tells : a.completion = .handler h)
    (waitsFirst : h.WaitsFirst name) (named : s.futures.lookup name = some cell)
    (waits : s.Waits cell) (depth : Nat) : runIterate (perform depth) s = none := by
  cases run : runIterate (perform depth) s with
  | none => rfl
  | some result =>
    exfalso
    -- Before the first handler runs, the pass has taken all that was queued.
    have stuck : (s.emptied l).Stuck name cell :=
      ⟨⟨⟨{ l with queue := [] }, rfl, connected, rfl⟩, empty, waits⟩, named, endless⟩
    obtain ⟨r, u, pumped, -⟩ := bind_some run
    rw [pump_eq loopback, connected, queue, callBackAll_cons] at pumped
    obtain ⟨_, v, called, -⟩ := bind_some pumped
    obtain ⟨_, w, served, -⟩ := bind_some called
    obtain ⟨x, response, stuck', received⟩ := serve_stuck stuck served
    rw [receiver] at received
    obtain ⟨rest', y, received, -⟩ := bind_some received
    obtain ⟨-, status, payload, z, -, took, concludes⟩ := receive_concludes received
    have nothing : a.stepsFor (response.bind (·.as? service)) = [] := by
      cases response.bind (·.as? service) with
      | none => rfl
      | some r => exact still r
    rw [nothing] at took
    obtain rfl : x = z := (pure_some took).2
    obtain @⟨before, after, outcome, notes, told, -⟩ := concludes
    rw [tells, invoke_stuck (stuck'.noted notes) waitsFirst] at told
    cases told

end

/-! ### Runs -/

/-- Wherever in a run a wait begins, one pass ends it if a queued request tells its future and the
handlers end. Between steps there is such a request unless a parked completion is to tell it. -/
theorem wait_ends_unless_request_taken (depth passes : Nat) :
    (∀ s cell, s.transport.isLoopback = true →
        (s.Waits cell → s.Queues cell ∧ (s.later s.looksOfWait).HandlersEnd (perform depth)) →
        ∃ outcome t, wait (passes + 1) (perform depth) cell s = some (outcome, t)) ∧
      (∀ s k name, s.transport.isLoopback = true →
        ∃ t, dispatch passes (perform depth) (.future name) (.call k) s = some (.started, t) ∧
          t.futures.lookup name = some s.cells.size ∧
          (t.Waits s.cells.size → t.Queues s.cells.size)) ∧
      (∀ s k, s.transport.isLoopback = true →
        ∃ u, submit (perform depth) k (.future s.cells.size) s.withCell = some ((), u) ∧
          ((u.Waits s.cells.size → (u.later u.looksOfWait).HandlersEnd (perform depth)) →
            ∃ outcome t, dispatch (passes + 1) (perform depth) .sync (.call k) s =
              some (.outcome outcome, t))) ∧
      ∀ n config clocks space maxPending steps reports,
        play n (.start config (.loopback { space, maxPending }) clocks) steps = some reports →
        ∀ report ∈ reports, ∀ cell, ¬ report.after.Parks cell →
          (report.after.Waits cell →
            (report.after.later report.after.looksOfWait).HandlersEnd (perform depth)) →
          ∃ outcome t, wait (passes + 1) (perform depth) cell report.after = some (outcome, t) := by
  have paying : Paying (perform depth) := perform_pays depth
  refine ⟨fun s cell kind ends => wait_ends paying kind ends passes,
    fun s k name kind => future_started kind passes k name, fun s k kind => ?_, ?_⟩
  · obtain ⟨u, started, -, -⟩ := @submit_future (perform depth) s kind k
    exact ⟨u, started, fun ends => sync_ends paying kind started ends passes⟩
  · intro n config clocks space maxPending steps reports run report member cell unparked ends
    obtain ⟨kind, covered⟩ := playFrom_covered rfl (.start config _ clocks) run report member
    refine wait_ends paying kind (fun waits => ⟨?_, ends waits⟩) passes
    rcases covered cell waits with owed | queued | parked
    · cases owed
    · exact queued
    · exact absurd parked unparked

/-- Without a deadline a future is awaited between steps, and an operation is made synchronously. -/
theorem queued_request_awaited_without_deadline :
    let s := State.start { requestTimeout := ⟨18446744073709551615, 0, by decide⟩ }
      (.loopback { space := .empty, maxPending := 0 }) ⟨fun _ => .epoch, id, 0, 0⟩
    let k : Call := .readValue .objectsFolder
    ∃ reports, play 1 s [.call k (.future "f")] = some reports ∧
      (∀ report ∈ reports, ∃ outcome t,
        wait 1 (perform 1) 0 report.after = some (outcome, t)) ∧
      ∃ outcome t, dispatch 1 (perform 1) .sync (.call k) s = some (.outcome outcome, t) := by
  intro s k
  obtain ⟨waits, starts, syncs, between⟩ := wait_ends_unless_request_taken 1 0
  obtain ⟨reports, run, only⟩ : ∃ reports, play 1 s [.call k (.future "f")] = some reports ∧
      ∀ report ∈ reports, report.after =
        k.acceptedFor (.future "f") { space := .empty, maxPending := 0 } s := by
    refine ⟨_, rfl, fun report member => ?_⟩
    rcases List.mem_singleton.mp member with rfl
    rfl
  have quiet {id : UInt32} {u : State} : (k.queued (.future 0) id u).Quiet := by
    rintro service a ⟨⟩
    exact ⟨fun _ => rfl, fun h => Completion.noConfusion⟩
  refine ⟨reports, run, fun report member => ?_, ?_⟩
  · refine between _ _ _ _ _ _ _ run report member 0 ?_ fun _ => .of_quiet ?_
    · rw [only report member]
      rintro (⟨slot, c, found, -⟩ | ⟨slot, c, found, -⟩)
      · cases found
      · cases found
    · rw [only report member]
      intro q queued
      rcases List.mem_singleton.mp queued with rfl
      exact quiet
  · obtain ⟨u, started, ends⟩ := syncs s k rfl
    refine ends fun _ => .of_quiet ?_
    obtain rfl : k.accepted (.future 0) { space := .empty, maxPending := 0 } s.withCell = u :=
      (Prod.mk.inj (Option.some.inj started)).2
    intro q queued
    rcases List.mem_singleton.mp queued with rfl
    exact quiet

/-- A run in which a future is awaited by the handler of an operation that the same pass serves. -/
theorem awaited_in_its_own_pass_forever :
    let s := State.start { requestTimeout := ⟨18446744073709551615, 0, by decide⟩ }
      (.loopback { space := .empty, maxPending := 0 }) ⟨fun _ => .epoch, id, 0, 0⟩
    let steps (inner : List Step) : List Step :=
      [.call (.readValue .objectsFolder) (.handler (.mk "h" false fun _ _ => (inner, .done))),
        .call (.readValue .objectsFolder) (.future "f"), .run]
    Endless s.config.requestTimeout ∧ (play 2 s (steps [])).isSome ∧
      ∀ depth, play depth s (steps [.wait "f"]) = none := by
  intro s steps
  have endless : Endless s.config.requestTimeout := (endless_iff _).mpr (by decide)
  refine ⟨endless, by decide +kernel, fun depth => ?_⟩
  cases depth with
  | zero => rfl
  | succ depth =>
    let h : Handler := .mk "h" false fun _ _ => ([.wait "f"], .done)
    let k : Call := .readValue .objectsFolder
    let l : Loopback := { space := .empty, maxPending := 0 }
    let first : State := k.acceptedFor (.handler h) l s
    let second : State := k.acceptedFor (.future "f") first.loopback first
    have started : perform (depth + 1) (.call k (.handler h)) s = some (.started, first) := rfl
    have started' : perform (depth + 1) (.call k (.future "f")) first = some (.started, second) := rfl
    have named : second.futures.lookup "f" = some 0 := rfl
    have waits : second.Waits 0 := rfl
    have stuck : runIterate (perform depth) second = none :=
      nested_wait_never_ends (s := second) rfl rfl rfl rfl endless rfl (fun _ => rfl) rfl
        (fun _ _ => ⟨[], rfl⟩) named waits depth
    have halts : perform (depth + 1) .run second = none := by
      show (runIterate (perform depth) >>= _) second = none
      simp [bind, StateT.bind, stuck]
    simp [play, playFrom, StateT.run, steps, h, k, started, started', halts]

end OpcUa.Client
