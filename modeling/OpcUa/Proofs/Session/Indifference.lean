import OpcUa.Proofs.Session.Depth
import OpcUa.Proofs.Session.Lockstep

/-!
Steps come to the same in sessions that agree, if they name no hidden future.
-/

namespace OpcUa.Client

open Run

/-! ### Names -/

/-- The futures that a token names. -/
def Token.names : Token → List String
  | .future name => [name]
  | .sync | .deferred _ | .detached | .handler _ => []

/-- The futures that a step names by itself. -/
def Step.names : Step → List String
  | .call _ token | .start _ token | .startUnit _ token | .immediate _ _ token
  | .launch _ token => token.names
  | .take name | .poll name | .wait name | .forget name | .describe (.future name) => [name]
  | _ => []

/-- Carries out steps as `perform` does, and gives nothing where a step names one of some
futures. -/
def performSparing (names : List String) : Nat → Step → Run Answer
  | 0, _ => exhausted
  | depth + 1, step =>
    if ∀ name ∈ step.names, name ∉ names then
      perform1 depth (performSparing names depth) step
    else exhausted

namespace Pairing

variable {P : Pairing} {n : Nat} {act : Act}

/-! ### Tables -/

section
variable {m : Nat} {l l' : List (String × Completion)}

theorem Tables.assign (h : P.Tables m l l') (slot : String) {c c' : Completion}
    (told : P.Completions m c c') : P.Tables m (assign slot c l) (assign slot c' l') := by
  intro other
  rw [lookup_assign, lookup_assign]
  split
  · exact .some told
  · exact h other

theorem Tables.without (h : P.Tables m l l') (slot : String) :
    P.Tables m (without slot l) (without slot l') := by
  intro other
  rw [lookup_without, lookup_without]
  split
  · exact .none
  · exact h other

theorem setSlots_agree (h : P.Tables n l l') :
    P.Agree n (modify fun s => { s with slots := l }) (modify fun s => { s with slots := l' }) :=
  .of_modify fun _ le _ _ agree =>
    { agree with
      slots := h.mono le
      left := { agree.left with }
      right := { agree.right with } }

theorem setUnitSlots_agree (h : P.Tables n l l') :
    P.Agree n (modify fun s => { s with unitSlots := l })
      (modify fun s => { s with unitSlots := l' }) :=
  .of_modify fun _ le _ _ agree =>
    { agree with
      unitSlots := h.mono le
      left := { agree.left with }
      right := { agree.right with } }

end

theorem setDeferred_agree (g : List (String × Initiation) → List (String × Initiation)) :
    P.Agree n (modify fun s => { s with deferred := g s.deferred })
      (modify fun s => { s with deferred := g s.deferred }) :=
  .of_modify fun _ _ s s' agree =>
    { agree with
      deferred := show g s'.deferred = g s.deferred by rw [agree.deferred]
      left := { agree.left with }
      right := { agree.right with } }

/-- A future may be named, unless the name is hidden. -/
theorem nameFuture_agree {name : String} (shown : name ∉ P.hidden) {cell cell' : Nat}
    (linked : P.Linked n cell cell') :
    P.Agree n (modify fun s => { s with futures := assign name cell s.futures })
      (modify fun s => { s with futures := assign name cell' s.futures }) := by
  refine .of_modify fun m le s s' agree => ?_
  have apart : ∀ other ∈ P.hidden, other ≠ name := fun other isHidden same =>
    shown (same ▸ isHidden)
  refine { agree with
    futures := fun other isShown => ?_
    left := agree.left.renamed fun other isHidden => by
      rw [lookup_assign, if_neg (apart other isHidden)]
    right := agree.right.renamed fun other isHidden => by
      rw [lookup_assign, if_neg (apart other isHidden)] }
  rw [lookup_assign, lookup_assign]
  split
  · exact .some (linked.mono le)
  · exact agree.futures other isShown

theorem forgetFuture_agree {name : String} (shown : name ∉ P.hidden) :
    P.Agree n (forgetFuture name) (forgetFuture name) := by
  refine .of_modify fun m le s s' agree => ?_
  have apart : ∀ other ∈ P.hidden, other ≠ name := fun other isHidden same =>
    shown (same ▸ isHidden)
  refine { agree with
    futures := fun other isShown => ?_
    left := agree.left.renamed fun other isHidden => by
      rw [lookup_without, if_neg (apart other isHidden)]
    right := agree.right.renamed fun other isHidden => by
      rw [lookup_without, if_neg (apart other isHidden)] }
  rw [lookup_without, lookup_without]
  split
  · exact .none
  · exact agree.futures other isShown

/-! ### Starting operations -/

theorem start_agree (indifferent : P.Indifferent act) (i : Initiation) {c c' : Completion}
    (told : P.Completions n c c') : P.Agree n (i.start act c) (i.start act c') := by
  cases i with
  | call k => exact submit_agree indifferent k told
  | park slot =>
    refine .bind (note_agree _ _) fun _ => .bind_get fun m le s s' agree => ?_
    refine .bind (setSlots_agree (agree.slots.assign slot (told.mono le))) fun _ => ?_
    exact dropAny_agree (agree.slots slot)
  | parkUnit slot =>
    refine .bind (note_agree _ _) fun _ => .bind_get fun m le s s' agree => ?_
    refine .bind (setUnitSlots_agree (agree.unitSlots.assign slot (told.mono le))) fun _ => ?_
    exact dropAny_agree (agree.unitSlots slot)
  | immediate code value =>
    refine .bind (invoke_agree indifferent told _ _ _) fun _ => ?_
    exact .bind (note_agree _ _) fun _ => .of_pure _

theorem dispatch_agree (indifferent : P.Indifferent act) (passes : Nat) {token : Token}
    (shown : ∀ name ∈ token.names, name ∉ P.hidden) (i : Initiation) :
    P.Agree n (dispatch passes act token i) (dispatch passes act token i) := by
  cases token with
  | sync =>
    refine newCell_agree fun m le cell cell' linked => ?_
    refine .bind (start_agree indifferent i (.future linked)) fun _ => ?_
    exact .bind (wait_agree indifferent linked passes) fun _ => .of_pure _
  | future name =>
    have isShown : name ∉ P.hidden := shown name (by simp [Token.names])
    refine newCell_agree fun m le cell cell' linked => ?_
    refine .bind (start_agree indifferent i (.future linked)) fun _ => ?_
    exact .bind (nameFuture_agree isShown linked) fun _ => .of_pure _
  | deferred name => exact .bind (setDeferred_agree _) fun _ => .of_pure _
  | detached => exact .bind (start_agree indifferent i .nobody) fun _ => .of_pure _
  | handler h => exact .bind (start_agree indifferent i (.handler h)) fun _ => .of_pure _

/-! ### Steps by themselves -/

theorem actOnCatcher_agree (desk : Desk) (a : CatcherAct) :
    P.Agree n (actOnCatcher desk a) (actOnCatcher desk a) := by
  cases a with
  | store e =>
    refine .bind (note_agree _ _) fun _ => ?_
    exact .bind (store_agree desk e) fun _ => .of_pure _
  | look => exact .bind (caught_agree desk) fun _ => .of_pure _
  | rethrow =>
    refine .bind (rethrow_agree desk) fun found => ?_
    cases found <;> exact .of_pure _
  | catching ending value =>
    refine .bind (.bind ?_ fun outcome => ?_) fun _ => .of_pure _
    · cases ending.outcome with
      | ok _ => exact .of_pure _
      | error e => exact .bind (note_agree _ _) fun _ => .of_pure _
    · cases outcome with
      | ok _ => exact .of_pure _
      | error e => exact .bind (store_agree desk e) fun _ => .of_pure _
  | catchPanic ending value => exact .of_pure _

theorem noteAdded_agree (answer : Answer) : P.Agree n (noteAdded answer) (noteAdded answer) := by
  unfold noteAdded
  split
  · split
    · exact note_agree _ _
    · exact .of_pure _
  · exact .of_pure _

theorem onSpace_agree (a : SpaceAct) : P.Agree n (onSpace a) (onSpace a) := by
  refine .bind timeOfDay_agree fun now => .bind_get fun m le s s' agree => ?_
  obtain ⟨l, l', here, there, rest, queue⟩ := agree.transport
  rw [here, there]
  generalize l'.queue = queue' at rest queue
  subst rest
  dsimp only
  rcases actOnSpace now l.space a with ⟨answer, space⟩
  have changed : P.Loopbacks m { l with space := space }
      { l with space := space, queue := queue' } := ⟨rfl, queue⟩
  refine .bind (setTransport_agree changed) fun _ => ?_
  exact .bind (noteAdded_agree answer) fun _ => .of_pure _

theorem setConnected_agree (isConnected : Bool) :
    P.Agree n (setConnected isConnected) (setConnected isConnected) := by
  refine .bind_get fun m le s s' agree => ?_
  obtain ⟨l, l', here, there, rest, queue⟩ := agree.transport
  rw [here, there]
  generalize l'.queue = queue' at rest queue
  subst rest
  have changed : P.Loopbacks m { l with isConnected := isConnected }
      { l with isConnected := isConnected, queue := queue' } := ⟨rfl, queue⟩
  exact .bind (note_agree _ _) fun _ => setTransport_agree changed

theorem failNextSubmit_agree (status : StatusCode) :
    P.Agree n (failNextSubmit status) (failNextSubmit status) := by
  refine .bind_get fun m le s s' agree => ?_
  obtain ⟨l, l', here, there, rest, queue⟩ := agree.transport
  rw [here, there]
  generalize l'.queue = queue' at rest queue
  subst rest
  have changed : P.Loopbacks m { l with failNext := some status }
      { l with failNext := some status, queue := queue' } := ⟨rfl, queue⟩
  exact .bind (note_agree _ _) fun _ => setTransport_agree changed

/-- A change of the transport that does not look at the queue. -/
theorem onLoopback_agree {f : Loopback → Loopback}
    (h : ∀ m l l', P.Loopbacks m l l' → P.Loopbacks m (f l) (f l')) :
    P.Agree n (onLoopback f) (onLoopback f) := by
  refine .of_modify fun m le s s' agree => ?_
  obtain ⟨l, l', here, there, same⟩ := agree.transport
  simp only [here, there]
  exact { agree with
    transport := ⟨_, _, rfl, rfl, h m l l' same⟩
    left := { agree.left with }
    right := { agree.right with } }

theorem onPrepared_agree (f : Prepared → Prepared) : P.Agree n (onPrepared f) (onPrepared f) := by
  refine .of_modify fun m le s s' agree => ?_
  obtain ⟨l, l', here, there, same⟩ := agree.transport
  simp only [here, there]
  exact agree

theorem withFuture_agree {name : String} (shown : name ∉ P.hidden) {f : Nat → Run Answer}
    (h : ∀ m, n ≤ m → ∀ cell cell', P.Linked m cell cell' → P.Agree m (f cell) (f cell')) :
    P.Agree n (withFuture name f) (withFuture name f) := by
  refine .bind_get fun m le s s' agree => ?_
  have found := agree.futures name shown
  generalize s.futures.lookup name = here at found ⊢
  generalize s'.futures.lookup name = there at found ⊢
  cases found with
  | some linked => exact h m le _ _ linked
  | none => exact .of_pure _

theorem lookAt_agree {cell cell' : Nat} (linked : P.Linked n cell cell') :
    P.Agree n (lookAt cell) (lookAt cell') := by
  refine .bind (takeOutcome_agree linked) fun found => ?_
  cases found <;> exact .of_pure _

theorem isSome_rel {α β : Type} {R : α → β → Prop} {x : Option α} {y : Option β}
    (h : Option.Rel R x y) : y.isSome = x.isSome := by
  cases h <;> rfl

theorem abandon_agree (slot : String) : P.Agree n (abandon slot) (abandon slot) := by
  refine .bind_get fun m le s s' agree => ?_
  have removed : P.Agree m
      (modify fun s => { s with
        slots := without slot s.slots, unitSlots := without slot s.unitSlots })
      (modify fun s => { s with
        slots := without slot s.slots, unitSlots := without slot s.unitSlots }) :=
    .of_modify fun _ _ _ _ agree =>
      { agree with
        slots := agree.slots.without slot
        unitSlots := agree.unitSlots.without slot
        left := { agree.left with }
        right := { agree.right with } }
  refine .bind removed fun _ => ?_
  refine .bind (dropAny_agree (agree.unitSlots slot)) fun _ => ?_
  refine .bind (dropAny_agree (agree.slots slot)) fun _ => .of_eq ?_
  rw [isSome_rel (agree.slots slot)]

theorem Loopbacks.describe {m : Nat} {l l' : Loopback} (same : P.Loopbacks m l l') :
    l'.describe = l.describe := by
  have connected : l'.isConnected = l.isConnected := by rw [same.rest]
  have limit : l'.maxPending = l.maxPending := by rw [same.rest]
  unfold Loopback.describe
  rw [connected, limit, same.queue.length_eq]

theorem States.isConnected {m : Nat} {s s' : State} (agree : P.States m s s') :
    s'.transport.isConnected = s.transport.isConnected := by
  obtain ⟨l, l', here, there, rest, -⟩ := agree.transport
  rw [here, there, rest]
  rfl

theorem describe_eq {m : Nat} {s s' : State} (agree : P.States m s s') {subject : Subject}
    (shown : ∀ name ∈ (Step.describe subject).names, name ∉ P.hidden) :
    s'.describe subject = s.describe subject := by
  cases subject with
  | client =>
    unfold State.describe State.describeClient
    rw [agree.config, agree.stats, agree.isConnected]
  | transport =>
    obtain ⟨l, l', here, there, same⟩ := agree.transport
    unfold State.describe
    rw [here, there]
    exact congrArg Answer.text same.describe
  | connection =>
    unfold State.describe
    rw [agree.isConnected]
  | future name =>
    have found := isSome_rel (agree.futures name (shown name (by simp [Step.names])))
    simp only [State.describe, found]
  | deferred name =>
    unfold State.describe
    rw [agree.deferred]

theorem trial_agree (indifferent : P.Indifferent act) (t : Trial) (h : Handler) :
    P.Agree n (t.run act h) (t.run act h) := by
  have told : P.Completions n (t.adapter h).completion (.handler h) := .handler h
  have delivered : P.Agree n (t.deliver act (t.adapter h)) (t.deliver act (t.adapter h)) := by
    unfold Trial.deliver
    split
    · exact .bind (misdirect_agree (t.adapter h) told) fun _ => .of_pure _
    · split
      · exact .bind (conclude_agree (t.adapter h) indifferent told _ _) fun _ => .of_pure _
      · exact adapter_receive_agree (t.adapter h) indifferent told _ _
  exact .bind delivered fun rest => .bind (caught_agree .spare) fun _ => .of_pure _

theorem rawReceiver_agree (h : Option Handler) :
    P.Receivers n (rawReceiver h) (rawReceiver h) := by
  cases h with
  | some h => exact .adapter _ (.handler h)
  | none => exact .probe

theorem submitRaw_agree (service : Service) (body : Option AnyRequest) (h : Option Handler)
    (passes : Nat) :
    P.Agree n (perform1 passes act (.submitRaw service body h))
      (perform1 passes act (.submitRaw service body h)) := by
  refine .bind (handOver_agree (rawReceiver_agree h) service body) fun r => ?_
  cases r with
  | ok id => exact .of_pure _
  | error e =>
    refine .bind ?_ fun _ => .of_pure _
    cases h with
    | some h => exact drop_agree (.handler h)
    | none => exact .of_pure _

theorem complete_agree (indifferent : P.Indifferent act) (slot : String) (code : StatusCode)
    (value : Int64) (passes : Nat) :
    P.Agree n (perform1 passes act (.complete slot code value))
      (perform1 passes act (.complete slot code value)) := by
  refine .bind_get fun m le s s' agree => ?_
  have number := agree.slots slot
  generalize s.slots.lookup slot = here at number ⊢
  generalize s'.slots.lookup slot = there at number ⊢
  cases number with
  | some told =>
    have removed : P.Agree m (modify fun s => { s with slots := without slot s.slots })
        (modify fun s => { s with slots := without slot s.slots }) :=
      .of_modify fun _ _ _ _ agree =>
        { agree with
          slots := agree.slots.without slot
          left := { agree.left with }
          right := { agree.right with } }
    refine .bind removed fun _ => ?_
    exact .bind (invoke_agree indifferent told _ _ _) fun _ => .of_pure _
  | none =>
    have unit := agree.unitSlots slot
    dsimp only
    generalize s.unitSlots.lookup slot = here at unit ⊢
    generalize s'.unitSlots.lookup slot = there at unit ⊢
    cases unit with
    | some told =>
      have removed : P.Agree m (modify fun s => { s with unitSlots := without slot s.unitSlots })
          (modify fun s => { s with unitSlots := without slot s.unitSlots }) :=
        .of_modify fun _ _ _ _ agree =>
          { agree with
            unitSlots := agree.unitSlots.without slot
            left := { agree.left with }
            right := { agree.right with } }
      refine .bind removed fun _ => ?_
      exact .bind (invoke_agree indifferent told _ _ _) fun _ => .of_pure _
    | none => exact .of_pure _

/-! ### Steps -/

theorem perform1_agree (indifferent : P.Indifferent act) (passes : Nat) {step : Step}
    (shown : ∀ name ∈ step.names, name ∉ P.hidden) :
    P.Agree n (perform1 passes act step) (perform1 passes act step) := by
  cases step with
  | call c token => exact dispatch_agree indifferent passes shown _
  | start slot token => exact dispatch_agree indifferent passes shown _
  | startUnit slot token => exact dispatch_agree indifferent passes shown _
  | immediate code value token => exact dispatch_agree indifferent passes shown _
  | launch name token =>
    refine .bind_get fun m le s s' agree => ?_
    rw [agree.deferred]
    cases s.deferred.lookup name with
    | none => exact .of_pure _
    | some i =>
      exact .bind (setDeferred_agree _) fun _ => dispatch_agree indifferent passes shown i
  | tryAdapter trial h => exact trial_agree indifferent trial h
  | submitRaw service body h => exact submitRaw_agree service body h passes
  | run => exact .bind (runIterate_agree indifferent) fun _ => .of_pure _
  | pump =>
    exact .bind (note_agree _ _) fun _ => .bind (pump_agree indifferent) fun _ => .of_pure _
  | close => exact .bind (setConnected_agree false) fun _ => .of_pure _
  | reopen => exact .bind (setConnected_agree true) fun _ => .of_pure _
  | failNextSubmit status => exact .bind (failNextSubmit_agree status) fun _ => .of_pure _
  | dropNextResponse =>
    refine .bind (onLoopback_agree fun m l l' same => ⟨?_, same.queue⟩) fun _ => .of_pure _
    rw [same.rest]
  | config => exact .bind_get fun m le s s' agree => .of_eq (by rw [agree.config])
  | describe subject => exact .bind_get fun m le s s' agree => .of_eq (describe_eq agree shown)
  | catcher desk a => exact actOnCatcher_agree desk a
  | take name =>
    exact withFuture_agree (shown name (by simp [Step.names])) fun _ _ _ _ => lookAt_agree
  | poll name =>
    exact withFuture_agree (shown name (by simp [Step.names])) fun _ _ _ _ => lookAt_agree
  | wait name =>
    have isShown : name ∉ P.hidden := shown name (by simp [Step.names])
    refine withFuture_agree isShown fun m le cell cell' linked => ?_
    refine .bind (forgetFuture_agree isShown) fun _ => ?_
    exact .bind (wait_agree indifferent linked passes) fun _ => .of_pure _
  | forget name =>
    have isShown : name ∉ P.hidden := shown name (by simp [Step.names])
    refine withFuture_agree isShown fun m le cell cell' linked => ?_
    exact .bind (forgetFuture_agree isShown) fun _ => .of_pure _
  | forgetDeferred name =>
    refine .bind_get fun m le s s' agree => ?_
    rw [agree.deferred]
    exact .bind (setDeferred_agree _) fun _ => .of_pure _
  | complete slot code value => exact complete_agree indifferent slot code value passes
  | abandon slot => exact abandon_agree slot
  | space a => exact onSpace_agree a
  | plan p => exact .bind (onPrepared_agree _) fun _ => .of_pure _
  | planPass p => exact .bind (onPrepared_agree _) fun _ => .of_pure _

end Pairing

/-! ### Between steps -/

/-- Two sessions that nothing sets apart, but for futures of certain names. -/
def Pairing.plain (hidden : List String) : Pairing := ⟨hidden, none, none⟩

/-- A session over the loopback transport in which all those who are still to be told an outcome,
and all futures that have a name, have their cells. -/
def State.Sound (s : State) : Prop := (Pairing.plain []).States s.cells.size s s

theorem Pairing.perform_agree {P : Pairing} (free : P.hidden = []) (depth : Nat) :
    P.Indifferent (perform depth) := by
  induction depth with
  | zero => exact fun _ _ => .of_exhausted
  | succ depth ih => exact fun n step => perform1_agree ih depth fun name _ => by simp [free]

theorem perform_sound {depth : Nat} {step : Step} {s t : State} {answer : Answer} (sound : s.Sound)
    (run : perform depth step s = some (answer, t)) : t.Sound := by
  obtain ⟨m, t', -, run', agree⟩ :=
    Pairing.perform_agree (P := .plain []) rfl depth _ step _ (Nat.le_refl _) s s sound answer t run
  rw [run] at run'
  cases run'
  have size : t.cells.size = m := agree.left.size
  unfold State.Sound
  rw [size]
  exact agree

theorem State.Sound.start (config : Config) (clocks : Clocks) {l : Loopback}
    (empty : l.queue = []) :
    (State.start config (.loopback l) clocks).Sound where
  config := rfl
  clocks := rfl
  caught := rfl
  spareCaught := rfl
  stats := rfl
  operations := rfl
  deferred := rfl
  transport := ⟨l, l, rfl, rfl, rfl, by rw [empty]; exact .nil⟩
  cells := fun _ _ => rfl
  futures := fun _ _ => .none
  slots := fun _ => .none
  unitSlots := fun _ => .none
  left := .bare [] _
  right := .bare [] _

theorem playFrom_sound {depth seen : Nat} {s : State} {steps : List Step} {reports : List Report}
    (sound : s.Sound) (run : playFrom depth seen s steps = some reports) :
    ∀ report ∈ reports, report.after.Sound := by
  induction steps generalizing s seen reports with
  | nil =>
    cases run
    simp
  | cons step rest ih =>
    obtain ⟨⟨answer, t⟩, first, run⟩ := Option.bind_eq_some_iff.mp run
    obtain ⟨later, played, run⟩ := Option.bind_eq_some_iff.mp run
    cases run
    have after : t.Sound := perform_sound sound first
    intro report member
    rcases List.mem_cons.mp member with rfl | member
    · exact after
    · exact ih after played report member

end OpcUa.Client
