import OpcUa.Proofs.Session.Promises

/-!
Every step of a session keeps its promises, whatever handlers do in it and however they nest. So
between the steps of a run each future without an outcome is told by a queued request or by a parked
completion.
-/

namespace OpcUa.Client

open Run

section
variable {act : Act}

/-! ### Steps -/

theorem exhausted_pays {α : Type} (owed : List Nat) : Pays owed (exhausted : Run α) := by
  intro s x t kind run
  cases run

theorem waitOr_pays (cell : Nat) (deadline : Option Nat) {goOn : Run (Except Failure Payload)}
    (h : Pays [] goOn) : Pays [] (waitOr cell deadline goOn) := by
  refine .bind_rest (takeOutcome_pays cell) fun found => ?_
  cases found with
  | some outcome => exact .of_pure _
  | none =>
    refine .bind_rest (hasCome_pays deadline) fun isLate => ?_
    cases isLate with
    | true =>
      refine .bind_rest .of_get fun s => ?_
      exact .bind_rest (note_pays _) fun _ => .of_pure _
    | false => exact h

theorem waitFor_pays (paying : Paying act) (cell : Nat) (deadline : Option Nat) (passes : Nat) :
    Pays [] (waitFor act cell deadline passes) := by
  induction passes with
  | zero => exact waitOr_pays cell deadline (exhausted_pays [])
  | succ passes ih =>
    refine waitOr_pays cell deadline (.bind_rest (runIterate_pays paying) fun r => ?_)
    cases r with
    | error e => exact .of_pure _
    | ok _ => exact ih

theorem wait_pays (paying : Paying act) (passes cell : Nat) : Pays [] (wait passes act cell) := by
  refine .bind_rest steadyTime_pays fun start => ?_
  exact .bind_rest .of_get fun s => waitFor_pays paying cell _ passes

/-- Where slots change, some futures are told by a slot from now on, and some by nobody else than
code under way. -/
theorem State.Covered.repark {s t : State} {taken parked owed : List Nat}
    (covered : s.Covered (parked ++ owed)) (transport : t.transport = s.transport)
    (cells : t.cells = s.cells) (told : ∀ cell ∈ parked, t.Parks cell)
    (parks : ∀ cell, s.Parks cell → cell ∈ taken ∨ t.Parks cell) : t.Covered (taken ++ owed) := by
  refine covered.carry ?_ ?_ ?_ ?_
  · intro cell waits
    unfold State.Waits at waits
    rwa [cells] at waits
  · intro cell own _
    rcases List.mem_append.mp own with mine | known
    · exact .inr (.inr (told cell mine))
    · exact .inl (List.mem_append_right _ known)
  · rintro cell ⟨q, queued, tells⟩
    refine .inr ⟨q, ?_, tells⟩
    unfold State.loopback
    rw [transport]
    exact queued
  · intro cell found
    rcases parks cell found with replaced | still
    · exact .inl (List.mem_append_left _ replaced)
    · exact .inr still

/-- Who is parked tells its future later; who was parked there before is let go. -/
theorem parkUnder_pays (slot : String) (c : Completion)
    (slots : State → List (String × Completion)) (put : List (String × Completion) → State → State)
    (keeps : ∀ l s, (put l s).transport = s.transport ∧ (put l s).cells = s.cells)
    (told : ∀ s, ∀ cell ∈ c.cell?.toList, (put (assign slot c (slots s)) s).Parks cell)
    (parks : ∀ s cell, s.Parks cell →
      cell ∈ cellsUnder slot (slots s) ∨ (put (assign slot c (slots s)) s).Parks cell) :
    Pays c.cell?.toList (parkUnder slot c slots put) := by
  refine .bind_rest (note_pays _) fun _ => ?_
  intro s x t kind run
  obtain ⟨_, u, got, run⟩ := bind_some run
  cases got
  obtain ⟨_, v, placed, run⟩ := bind_some run
  obtain ⟨transport, cells⟩ := keeps (assign slot c (slots s)) s
  have reached : v = put (assign slot c (slots s)) s := by
    cases placed
    rfl
  subst reached
  have forward : Forward s (put (assign slot c (slots s)) s) := .of_cells (transport ▸ kind) cells
  refine (dropAny_pays ((slots s).lookup slot)).after forward (fun others covered => ?_) run
  exact covered.repark transport cells (told s) (parks s)

theorem start_pays (paying : Paying act) (i : Initiation) (c : Completion) :
    Pays c.cell?.toList (i.start act c) := by
  cases i with
  | call k => exact submit_pays paying k c
  | park slot =>
    refine parkUnder_pays slot c State.slots (fun l s => { s with slots := l })
      (fun _ _ => ⟨rfl, rfl⟩) ?_ ?_
    · exact fun s cell own => .inl (parked_assign_self slot (by simpa using own))
    · rintro s cell (held | held)
      · rcases parked_assign slot c held with replaced | still
        · exact .inl replaced
        · exact .inr (.inl still)
      · exact .inr (.inr held)
  | parkUnit slot =>
    refine parkUnder_pays slot c State.unitSlots (fun l s => { s with unitSlots := l })
      (fun _ _ => ⟨rfl, rfl⟩) ?_ ?_
    · exact fun s cell own => .inr (parked_assign_self slot (by simpa using own))
    · rintro s cell (held | held)
      · exact .inr (.inl held)
      · rcases parked_assign slot c held with replaced | still
        · exact .inl replaced
        · exact .inr (.inr still)
  | immediate code value =>
    exact .bind_first (invoke_pays paying c _ _ _) fun _ => note_pays _

theorem dispatch_pays (paying : Paying act) (n : Nat) (token : Token) (i : Initiation) :
    Pays [] (dispatch n act token i) := by
  cases token with
  | sync =>
    refine newCell_pays fun cell => ?_
    refine .bind_first (start_pays paying i (.future cell)) fun _ => ?_
    exact .bind_rest (wait_pays paying n cell) fun _ => .of_pure _
  | future name =>
    refine newCell_pays fun cell => ?_
    refine .bind_first (start_pays paying i (.future cell)) fun _ => ?_
    exact .bind_rest (.of_modify fun _ => ⟨rfl, rfl, rfl, rfl⟩) fun _ => .of_pure _
  | deferred name =>
    exact .bind_rest (.of_modify fun _ => ⟨rfl, rfl, rfl, rfl⟩) fun _ => .of_pure _
  | detached => exact .bind_rest (start_pays paying i .nobody) fun _ => .of_pure _
  | handler h => exact .bind_rest (start_pays paying i (.handler h)) fun _ => .of_pure _

theorem actOnCatcher_pays (desk : Desk) (a : CatcherAct) : Pays [] (actOnCatcher desk a) := by
  cases a with
  | store e =>
    refine .bind_rest (note_pays _) fun _ => ?_
    exact .bind_rest (store_pays desk e) fun _ => .of_pure _
  | look => exact .bind_rest (caught_pays desk) fun _ => .of_pure _
  | rethrow =>
    refine .bind_rest (rethrow_pays desk) fun found => ?_
    cases found <;> exact .of_pure _
  | catching ending value =>
    refine .bind_rest (.bind_rest ?_ fun outcome => ?_) fun _ => .of_pure _
    · cases ending.outcome with
      | ok _ => exact .of_pure _
      | error e => exact .bind_rest (note_pays _) fun _ => .of_pure _
    · cases outcome with
      | ok _ => exact .of_pure _
      | error e => exact .bind_rest (store_pays desk e) fun _ => .of_pure _
  | catchPanic ending value => exact .of_pure _

theorem noteAdded_pays (answer : Answer) : Pays [] (noteAdded answer) := by
  unfold noteAdded
  split
  · split
    · exact note_pays _
    · exact .of_pure _
  · exact .of_pure _

theorem onSpace_pays (a : SpaceAct) : Pays [] (onSpace a) := by
  refine .bind_rest timeOfDay_pays fun now => ?_
  intro s x t kind run
  obtain ⟨_, u, got, run⟩ := bind_some run
  cases got
  rcases acted : actOnSpace now s.loopback.space a with ⟨answer, space⟩
  rw [loopback_eq kind] at run
  simp only [acted] at run
  obtain ⟨_, v, put, run⟩ := bind_some run
  obtain ⟨forward, keeps⟩ := put_pays put rfl
  have rest : Pays [] (do
      noteAdded answer
      return answer) := .bind_rest (noteAdded_pays _) fun _ => .of_pure _
  exact rest.after forward keeps run

theorem note_put_pays (o : Occurrence) {f : Loopback → Loopback} (h : ∀ l, (f l).queue = l.queue)
    {s t : State} {x : Unit} (kind : s.transport.isLoopback = true)
    (run : (do note o; (f s.loopback).put) s = some (x, t)) :
    Forward s t ∧ ∀ owed, s.Covered owed → t.Covered owed := by
  obtain ⟨_, u, noted, put⟩ := bind_some run
  have same : u.loopback = s.loopback := by
    cases noted
    rfl
  obtain ⟨forward, noting⟩ := note_pays o s _ u kind noted
  obtain ⟨forward', keeps⟩ := put_pays put (by rw [same, h])
  exact ⟨forward.trans forward', fun owed covered => keeps owed (noting owed covered)⟩

theorem setConnected_pays (isConnected : Bool) : Pays [] (setConnected isConnected) := by
  intro s x t kind run
  obtain ⟨_, u, got, run⟩ := bind_some run
  cases got
  rw [loopback_eq kind] at run
  exact note_put_pays _ (f := fun l => { l with isConnected := isConnected }) (fun _ => rfl) kind run

theorem failNextSubmit_pays (status : StatusCode) : Pays [] (failNextSubmit status) := by
  intro s x t kind run
  obtain ⟨_, u, got, run⟩ := bind_some run
  cases got
  rw [loopback_eq kind] at run
  exact note_put_pays _ (f := fun l => { l with failNext := some status }) (fun _ => rfl) kind run

theorem onLoopback_pays {f : Loopback → Loopback} (h : ∀ l, (f l).queue = l.queue) :
    Pays [] (onLoopback f) := by
  intro s x t kind run
  have put : (f s.loopback).put s = some (x, t) := by
    cases run
    simp only [loopback_eq kind]
    rfl
  exact put_pays put (h _)

theorem onPrepared_pays (f : Prepared → Prepared) : Pays [] (onPrepared f) := by
  intro s x t kind run
  have same : t = s := by
    cases run
    simp only [loopback_eq kind]
  rw [same]
  exact ⟨.of_cells kind rfl, fun _ covered => covered⟩

theorem withFuture_pays (name : String) {f : Nat → Run Answer} (h : ∀ cell, Pays [] (f cell)) :
    Pays [] (withFuture name f) := by
  refine .bind_rest .of_get fun s => ?_
  split
  · exact h _
  · exact .of_pure _

theorem lookAt_pays (cell : Nat) : Pays [] (lookAt cell) := by
  refine .bind_rest (takeOutcome_pays cell) fun found => ?_
  cases found <;> exact .of_pure _

theorem trial_pays (paying : Paying act) (t : Trial) (h : Handler) : Pays [] (t.run act h) := by
  have delivered : Pays [] (t.deliver act (t.adapter h)) := by
    unfold Trial.deliver
    split
    · exact .bind_rest (misdirect_pays (t.adapter h)) fun _ => .of_pure _
    · split
      · exact .bind_rest (conclude_pays (t.adapter h) paying _ _) fun _ => .of_pure _
      · exact adapter_receive_pays (t.adapter h) paying _ _
  exact .bind_rest delivered fun _ => .bind_rest (caught_pays .spare) fun _ => .of_pure _

theorem submitRaw_pays (service : Service) (body : Option AnyRequest) (h : Option Handler) :
    Pays [] (do
      let receiver := rawReceiver h
      match ← handOver service body receiver with
      | .ok id => return Answer.accepted id
      | .error (status, _) =>
        receiver.drop
        return .refused status) := by
  have tellsNobody : (rawReceiver h).cell? = none := by cases h <;> rfl
  intro s x t kind run
  obtain ⟨result, u, handed, run⟩ := bind_some run
  obtain ⟨forward, takes⟩ := handOver_pays kind handed
  rw [tellsNobody] at takes
  cases result with
  | ok id => exact (Pays.of_pure _).after forward takes run
  | error e =>
    have dropped : Pays [] (do
        (rawReceiver h).drop
        return Answer.refused e.1) :=
      .bind_rest (receiver_drop_pays _).free fun _ => .of_pure _
    exact dropped.after forward takes run

theorem abandon_pays (slot : String) : Pays [] (abandon slot) := by
  intro s x t kind run
  obtain ⟨_, u, got, run⟩ := bind_some run
  cases got
  obtain ⟨_, u, taken, run⟩ := bind_some run
  have forward : Forward s u := by
    cases taken
    exact .of_cells kind rfl
  have owing : ∀ others, s.Covered ([] ++ others) →
      u.Covered (cellsUnder slot s.unitSlots ++ cellsUnder slot s.slots ++ others) := by
    intro others covered
    cases taken
    refine covered.repark rfl rfl (fun _ none => absurd none List.not_mem_nil) ?_
    rintro cell (held | held)
    · rcases parked_without slot held with removed | still
      · exact .inl (List.mem_append_right _ removed)
      · exact .inr (.inl still)
    · rcases parked_without slot held with removed | still
      · exact .inl (List.mem_append_left _ removed)
      · exact .inr (.inr still)
  have rest : Pays (cellsUnder slot s.unitSlots ++ cellsUnder slot s.slots) (do
      dropAny (s.unitSlots.lookup slot)
      dropAny (s.slots.lookup slot)
      return Answer.flag (s.slots.lookup slot).isSome) :=
    .bind (dropAny_pays _) fun _ => .bind_first (dropAny_pays _) fun _ => .of_pure _
  exact rest.after forward owing run

/-- Who is taken out of a slot and invoked tells its future. -/
theorem invokeParked_pays (paying : Paying act) {f : State → State} {c : Completion}
    {status : StatusCode} {payload : Payload} {s t : State} {x : Answer}
    (forward : Forward s (f s))
    (owing : ∀ others, s.Covered ([] ++ others) → (f s).Covered (c.cell?.toList ++ others))
    (run : (do
      modify f
      return Answer.outcome ((← c.invoke act {} status payload).map fun () => .nothing)) s =
        some (x, t)) : Forward s t ∧ ∀ others, s.Covered ([] ++ others) → t.Covered others := by
  obtain ⟨_, u, taken, run⟩ := bind_some run
  cases taken
  have rest : Pays c.cell?.toList (do
      return Answer.outcome ((← c.invoke act {} status payload).map fun () => .nothing)) :=
    .bind_first (invoke_pays paying c _ _ _) fun _ => .of_pure _
  exact rest.after forward owing run

theorem complete_pays (paying : Paying act) (slot : String) (code : StatusCode) (value : Int64)
    (n : Nat) : Pays [] (perform1 n act (.complete slot code value)) := by
  intro s x t kind run
  obtain ⟨_, u, got, run⟩ := bind_some run
  cases got
  cases found : s.slots.lookup slot with
  | some c =>
    rw [found] at run
    refine invokeParked_pays paying (.of_cells kind rfl) (fun others covered => ?_) run
    refine covered.repark rfl rfl (fun _ none => absurd none List.not_mem_nil) ?_
    rintro cell (held | held)
    · rcases parked_without slot held with removed | still
      · exact .inl (cellsUnder_of found ▸ removed)
      · exact .inr (.inl still)
    · exact .inr (.inr held)
  | none =>
    rw [found] at run
    dsimp only at run
    cases found : s.unitSlots.lookup slot with
    | some c =>
      rw [found] at run
      refine invokeParked_pays paying (.of_cells kind rfl) (fun others covered => ?_) run
      refine covered.repark rfl rfl (fun _ none => absurd none List.not_mem_nil) ?_
      rintro cell (held | held)
      · exact .inr (.inl held)
      · rcases parked_without slot held with removed | still
        · exact .inl (cellsUnder_of found ▸ removed)
        · exact .inr (.inr still)
    | none =>
      rw [found] at run
      exact Pays.of_pure _ s x t kind run

theorem perform1_pays (paying : Paying act) (n : Nat) (step : Step) :
    Pays [] (perform1 n act step) := by
  cases step with
  | call c token => exact dispatch_pays paying n token _
  | start slot token => exact dispatch_pays paying n token _
  | startUnit slot token => exact dispatch_pays paying n token _
  | immediate code value token => exact dispatch_pays paying n token _
  | launch name token =>
    refine .bind_rest .of_get fun s => ?_
    split
    · exact .of_pure _
    · refine .bind_rest (.of_modify fun _ => ⟨rfl, rfl, rfl, rfl⟩) fun _ => ?_
      exact dispatch_pays paying n token _
  | tryAdapter trial h => exact trial_pays paying trial h
  | submitRaw service body h => exact submitRaw_pays service body h
  | run => exact .bind_rest (runIterate_pays paying) fun _ => .of_pure _
  | pump =>
    refine .bind_rest (note_pays _) fun _ => ?_
    exact .bind_rest (pump_pays paying) fun _ => .of_pure _
  | close => exact .bind_rest (setConnected_pays false) fun _ => .of_pure _
  | reopen => exact .bind_rest (setConnected_pays true) fun _ => .of_pure _
  | failNextSubmit status => exact .bind_rest (failNextSubmit_pays status) fun _ => .of_pure _
  | dropNextResponse => exact .bind_rest (onLoopback_pays fun _ => rfl) fun _ => .of_pure _
  | config => exact .bind_rest .of_get fun _ => .of_pure _
  | describe subject => exact .bind_rest .of_get fun _ => .of_pure _
  | catcher desk a => exact actOnCatcher_pays desk a
  | take name => exact withFuture_pays name lookAt_pays
  | poll name => exact withFuture_pays name lookAt_pays
  | wait name =>
    refine withFuture_pays name fun cell => ?_
    refine .bind_rest (.of_modify fun _ => ⟨rfl, rfl, rfl, rfl⟩) fun _ => ?_
    exact .bind_rest (wait_pays paying n cell) fun _ => .of_pure _
  | forget name =>
    refine withFuture_pays name fun _ => ?_
    exact .bind_rest (.of_modify fun _ => ⟨rfl, rfl, rfl, rfl⟩) fun _ => .of_pure _
  | forgetDeferred name =>
    refine .bind_rest .of_get fun _ => ?_
    exact .bind_rest (.of_modify fun _ => ⟨rfl, rfl, rfl, rfl⟩) fun _ => .of_pure _
  | complete slot code value => exact complete_pays paying slot code value n
  | abandon slot => exact abandon_pays slot
  | space a => exact onSpace_pays a
  | plan p => exact .bind_rest (onPrepared_pays _) fun _ => .of_pure _
  | planPass p => exact .bind_rest (onPrepared_pays _) fun _ => .of_pure _

end

theorem perform_pays (depth : Nat) : Paying (perform depth) := by
  intro step
  induction depth generalizing step with
  | zero => exact exhausted_pays []
  | succ depth ih => exact perform1_pays ih depth step

/-! ### Between steps -/

theorem State.Covered.start (config : Config) (transport : Transport) (clocks : Clocks) :
    (State.start config transport clocks).Covered [] := by
  intro cell waits
  cases waits

/-- Between the steps of a run every future that waits is told by a queued request or by a parked
completion. -/
theorem playFrom_covered {depth seen : Nat} {s : State} {steps : List Step} {reports : List Report}
    (kind : s.transport.isLoopback = true) (covered : s.Covered [])
    (run : playFrom depth seen s steps = some reports) :
    ∀ report ∈ reports, report.after.transport.isLoopback = true ∧ report.after.Covered [] := by
  induction steps generalizing s seen reports with
  | nil =>
    cases run
    simp
  | cons step rest ih =>
    obtain ⟨⟨answer, t⟩, first, run⟩ := Option.bind_eq_some_iff.mp run
    obtain ⟨later, played, run⟩ := Option.bind_eq_some_iff.mp run
    cases run
    obtain ⟨forward, pays⟩ := perform_pays depth step s answer t kind first
    intro report member
    rcases List.mem_cons.mp member with rfl | member
    · exact ⟨forward.isLoopback, pays [] covered⟩
    · exact ih forward.isLoopback (pays [] covered) played report member

end OpcUa.Client
