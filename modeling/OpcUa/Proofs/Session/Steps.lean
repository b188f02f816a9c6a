import OpcUa.Proofs.Session.Passes

/-!
Steps and whole runs as moves. The induction is on how deep handlers nest: a step is made of moves
if the steps of its handlers are.
-/

namespace OpcUa.Client

open Run

variable {may : Power → List Pass → Prop} {act : Act} {passes : List Pass}

/-! ### Driving the client -/

theorem runIterate_follows (obliging : Obliging may act) (pass : may .pass passes)
    (rethrows : may .rethrow passes) : Follows may passes [] (runIterate act) := by
  refine .bind_rest (pump_follows obliging pass) fun r => ?_
  cases r with
  | error e => exact .of_pure _
  | ok n =>
    intro s x t h others
    obtain ⟨_, u, counted, h⟩ := bind_some h
    obtain ⟨_, v, noted, h⟩ := bind_some h
    obtain ⟨found, w, rethrown, h⟩ := bind_some h
    have finish : Leads may (s.outline passes others) (v.outline passes others) := by
      rw [outline_note noted, outline_count counted]
      exact .of_move (.finish (p := s.outline passes others) n) rfl
        (by simp [Occurrence.concluded?])
    have taken : Leads may (v.outline passes others) (w.outline passes others) :=
      rethrow_follows (fun _ => rethrows) v found w rethrown others
    refine (finish.trans taken).trans ?_
    cases found with
    | none =>
      obtain ⟨-, rfl⟩ := pure_some h
      exact .refl _
    | some e =>
      obtain ⟨_, y, counted, h⟩ := bind_some h
      obtain ⟨_, z, noted, h⟩ := bind_some h
      obtain ⟨-, rfl⟩ := pure_some h
      rw [outline_note noted, outline_count counted]
      exact .of_move (.report (p := w.outline passes others) "run_iterate" e) rfl (by
        simp [Occurrence.concluded?])

theorem silent_hasCome (deadline : Option Nat) : Silent (hasCome deadline) := by
  cases deadline with
  | none => exact .of_pure _
  | some t => exact .bind silent_steadyTime fun _ => .of_pure _

theorem exhausted_follows {α : Type} : Follows may passes [] (exhausted : Run α) := by
  intro s x t h
  cases h

theorem waitOr_follows (cell : Nat) (deadline : Option Nat) {goOn : Run (Except Failure Payload)}
    (h : Follows may passes [] goOn) : Follows may passes [] (waitOr cell deadline goOn) := by
  refine .bind_rest (.of_silent (silent_takeOutcome cell)) fun found => ?_
  cases found with
  | some outcome => exact .of_pure _
  | none =>
    refine .bind_rest (.of_silent (silent_hasCome deadline)) fun isLate => ?_
    cases isLate with
    | true =>
      refine .bind_rest (.of_silent .of_get) fun s => ?_
      exact .bind_rest (note_follows rfl) fun _ => .of_pure _
    | false => exact h

theorem waitFor_follows (obliging : Obliging may act) (pass : may .pass passes)
    (rethrows : may .rethrow passes) (cell : Nat) (deadline : Option Nat) (n : Nat) :
    Follows may passes [] (waitFor act cell deadline n) := by
  induction n with
  | zero => exact waitOr_follows cell deadline exhausted_follows
  | succ n ih =>
    refine waitOr_follows cell deadline (.bind_rest (runIterate_follows obliging pass rethrows) ?_)
    intro r
    cases r with
    | error e => exact .of_pure _
    | ok _ => exact ih

theorem wait_follows (obliging : Obliging may act) (pass : may .pass passes)
    (rethrows : may .rethrow passes) (n cell : Nat) :
    Follows may passes [] (wait n act cell) := by
  refine .bind_rest (.of_silent silent_steadyTime) fun start => ?_
  refine .bind_rest (.of_silent .of_get) fun s => ?_
  exact waitFor_follows obliging pass rethrows cell _ n

/-! ### Starting operations -/

/-- Who is told the outcome, if `cell` is the next cell. -/
def Token.completion (cell : Nat) : Token → Completion
  | .sync | .future _ => .future cell
  | .handler h => .handler h
  | .deferred _ | .detached => .nobody

/-- A step that starts an operation: it makes a call, or launches one that was deferred. -/
inductive Step.Starts (s : State) : Step → Call → Token → Prop
  | call (k : Call) (token : Token) : Starts s (.call k token) k token
  | launch {name : String} {k : Call} (token : Token)
      (found : s.deferred.lookup name = some (.call k)) : Starts s (.launch name token) k token

theorem parkUnder_follows (slot : String) (c : Completion)
    (slots : State → List (String × Completion)) (put : List (String × Completion) → State → State)
    (keeps : ∀ l s passes due, (put l s).outline passes due = s.outline passes due) :
    Follows may passes [] (parkUnder slot c slots put) := by
  refine .bind_rest (note_follows rfl) fun _ => ?_
  refine .bind_rest (.of_silent .of_get) fun s => ?_
  refine .bind_rest (.of_silent (.of_modify (keeps _))) fun _ => ?_
  exact .of_silent (silent_dropAny _)

theorem start_follows (obliging : Obliging may act) (i : Initiation) (c : Completion) :
    Follows may passes [] (i.start act c) := by
  cases i with
  | call k => exact submit_follows obliging k c
  | park slot =>
    exact parkUnder_follows slot c State.slots (fun l s => { s with slots := l }) fun _ _ _ _ => rfl
  | parkUnit slot =>
    exact parkUnder_follows slot c State.unitSlots (fun l s => { s with unitSlots := l })
      fun _ _ _ _ => rfl
  | immediate code value =>
    exact .bind_rest (invoke_follows obliging c _ _) fun _ => note_follows rfl

theorem dispatch_follows (obliging : Obliging may act) (n : Nat) (token : Token) (i : Initiation)
    (granted : ∀ power ∈ token.needs, may power passes) :
    Follows may passes [] (dispatch n act token i) := by
  cases token with
  | sync =>
    have pass : may .pass passes := granted .pass (by simp [Token.needs])
    have rethrows : may .rethrow passes := granted .rethrow (by simp [Token.needs])
    refine .bind_rest (.of_silent silent_newCell) fun cell => ?_
    refine .bind_rest (start_follows obliging i _) fun _ => ?_
    exact .bind_rest (wait_follows obliging pass rethrows n cell) fun _ => .of_pure _
  | future name =>
    refine .bind_rest (.of_silent silent_newCell) fun cell => ?_
    refine .bind_rest (start_follows obliging i _) fun _ => ?_
    exact .bind_rest (.of_silent (.of_modify fun _ _ _ => rfl)) fun _ => .of_pure _
  | deferred name =>
    exact .bind_rest (.of_silent (.of_modify fun _ _ _ => rfl)) fun _ => .of_pure _
  | detached => exact .bind_rest (start_follows obliging i _) fun _ => .of_pure _
  | handler h => exact .bind_rest (start_follows obliging i _) fun _ => .of_pure _

/-! ### Steps by themselves -/

theorem forgetFuture_follows (name : String) : Follows may passes [] (forgetFuture name) :=
  .of_silent (.of_modify fun _ _ _ => rfl)

theorem handIn_follows {α : Type} {desk : Desk} {e : Failure} {next : Run α}
    (h : Follows may passes [] next) :
    Follows may passes [] (do note (.handedIn desk e); store desk e; next) := by
  intro s x t run others
  obtain ⟨_, u, noted, run⟩ := bind_some run
  obtain ⟨_, v, stored, run⟩ := bind_some run
  exact (arrive_leads rfl noted stored).trans (h v x t run others)

theorem actOnCatcher_follows (desk : Desk) (a : CatcherAct)
    (granted : ∀ power ∈ (Step.catcher desk a).needs, may power passes) :
    Follows may passes [] (actOnCatcher desk a) := by
  cases a with
  | store e => exact handIn_follows (.of_pure _)
  | look => exact .bind_rest (.of_silent (silent_caught desk)) fun _ => .of_pure _
  | rethrow =>
    have allowed : desk = .client → may .rethrow passes := by
      rintro rfl
      exact granted .rethrow (by simp [Step.needs])
    refine .bind_rest (rethrow_follows allowed) fun found => ?_
    cases found <;> exact .of_pure _
  | catching ending value =>
    intro s x t run others
    obtain ⟨kept, u, caught, run⟩ := bind_some run
    obtain ⟨-, rfl⟩ := pure_some run
    obtain ⟨outcome, v, code, caught⟩ := bind_some caught
    cases ended : ending.outcome with
    | ok _ =>
      rw [ended] at code
      obtain ⟨rfl, rfl⟩ := pure_some code
      obtain ⟨-, rfl⟩ := pure_some caught
      exact .refl _
    | error e =>
      rw [ended] at code
      obtain ⟨_, w, noted, code⟩ := bind_some code
      obtain ⟨rfl, rfl⟩ := pure_some code
      obtain ⟨_, y, stored, caught⟩ := bind_some caught
      obtain ⟨-, rfl⟩ := pure_some caught
      exact arrive_leads rfl noted stored
  | catchPanic ending value => exact .of_pure _

theorem actOnSpace_eq {act : SpaceAct} (h : act.changes = false) (now : Timestamp)
    (space : AddressSpace) : (actOnSpace now space act).2 = space := by
  cases act <;> first | rfl | cases h

theorem move_loopback {s : State} {l : Loopback} (transport : s.transport = .loopback l)
    (due : List (Nat × Completion)) : (s.outline passes due).move l = s.outline passes due := by
  rw [State.outline, transport]
  rfl

theorem noteAdded_follows (answer : Answer) : Follows may passes [] (noteAdded answer) := by
  unfold noteAdded
  split
  · split
    · exact note_follows rfl
    · exact .of_pure _
  · exact .of_pure _

theorem onSpace_follows (a : SpaceAct)
    (granted : ∀ power ∈ (Step.space a).needs, may power passes) :
    Follows may passes [] (onSpace a) := by
  refine .bind_rest (.of_silent silent_timeOfDay) fun now => ?_
  intro s x t run others
  obtain ⟨_, u, got, run⟩ := bind_some run
  cases got
  cases transport : s.transport with
  | prepared p =>
    rw [transport] at run
    obtain ⟨-, rfl⟩ := pure_some run
    exact .refl _
  | loopback l =>
    rw [transport] at run
    rcases acted : actOnSpace now l.space a with ⟨answer, space⟩
    simp only [acted] at run
    obtain ⟨_, v, put, run⟩ := bind_some run
    have changed : Leads may (s.outline passes others) (v.outline passes others) := by
      rw [outline_put put]
      cases changes : a.changes with
      | true =>
        have allowed : may .space passes := granted .space (by simp [Step.needs, changes])
        exact .of_move (.change (p := s.outline passes others) space transport allowed)
          (List.append_nil _).symm (by simp)
      | false =>
        have same : space = l.space := by
          rw [← actOnSpace_eq changes now l.space, acted]
        rw [same, move_loopback transport]
        exact .refl _
    obtain ⟨_, w, noted, run⟩ := bind_some run
    obtain ⟨-, rfl⟩ := pure_some run
    exact changed.trans (noteAdded_follows answer v _ w noted others)

theorem steer_leads {l l' : Loopback} {os : List Occurrence} {s t : State}
    (transport : s.transport = .loopback l) (steering : Steering l l' os)
    (due : List (Nat × Completion))
    (same : t.outline passes due = ((s.outline passes due).move l').add os) :
    Leads may (s.outline passes due) (t.outline passes due) := by
  rw [same]
  refine .of_move (.steer (p := s.outline passes due) transport steering) rfl ?_
  cases steering <;> simp [Occurrence.concluded?]

theorem setConnected_follows (isConnected : Bool) :
    Follows may passes [] (setConnected isConnected) := by
  intro s x t run others
  obtain ⟨_, u, got, run⟩ := bind_some run
  cases got
  cases transport : s.transport with
  | prepared p =>
    rw [transport] at run
    exact (Apart.put (by rw [transport]; rfl) run).leads _ _ _ _
  | loopback l =>
    rw [transport] at run
    obtain ⟨_, v, noted, put⟩ := bind_some run
    have same : t.outline passes others = _ := outline_put put
    rw [outline_note noted] at same
    cases isConnected with
    | true => exact steer_leads transport .reopen others same
    | false => exact steer_leads transport .close others same

theorem failNextSubmit_follows (status : StatusCode) :
    Follows may passes [] (failNextSubmit status) := by
  intro s x t run others
  obtain ⟨_, u, got, run⟩ := bind_some run
  cases got
  cases transport : s.transport with
  | prepared p =>
    rw [transport] at run
    exact Follows.of_pure () s x t run others
  | loopback l =>
    rw [transport] at run
    obtain ⟨_, v, noted, put⟩ := bind_some run
    have same : t.outline passes others = _ := outline_put put
    rw [outline_note noted] at same
    exact steer_leads transport (.failNext status) others same

theorem onLoopback_follows {f : Loopback → Loopback} (steering : ∀ l, Steering l (f l) []) :
    Follows may passes [] (onLoopback f) := by
  intro s x t run others
  cases transport : s.transport with
  | prepared p =>
    have same : t = s := by
      cases run
      simp only [transport]
    rw [same]
    exact .refl _
  | loopback l =>
    have put : (f l).put s = some (x, t) := by
      cases run
      simp only [transport]
      rfl
    refine steer_leads transport (steering l) others ?_
    rw [outline_put put]
    simp [Outline.add]

theorem withFuture_follows (name : String) {f : Nat → Run Answer}
    (h : ∀ cell, Follows may passes [] (f cell)) : Follows may passes [] (withFuture name f) := by
  refine .bind_rest (.of_silent .of_get) fun s => ?_
  split
  · exact h _
  · exact .of_pure _

theorem lookAt_follows (cell : Nat) : Follows may passes [] (lookAt cell) := by
  refine .bind_rest (.of_silent (silent_takeOutcome cell)) fun found => ?_
  cases found <;> exact .of_pure _

theorem onPrepared_follows (f : Prepared → Prepared) : Follows may passes [] (onPrepared f) := by
  intro s x t run others
  cases transport : s.transport with
  | loopback l =>
    have same : t = s := by
      cases run
      simp only [transport]
    rw [same]
    exact .refl _
  | prepared p =>
    have put : (f p).put s = some (x, t) := by
      cases run
      simp only [transport]
      rfl
    exact (Apart.put (by rw [transport]; rfl) put).leads _ _ _ _

theorem abandon_follows (slot : String) : Follows may passes [] (abandon slot) := by
  refine .bind_rest (.of_silent .of_get) fun s => ?_
  refine .bind_rest (.of_silent (.of_modify fun _ _ _ => rfl)) fun _ => ?_
  refine .bind_rest (.of_silent (silent_dropAny _)) fun _ => ?_
  exact .bind_rest (.of_silent (silent_dropAny _)) fun _ => .of_pure _

theorem trial_follows (obliging : Obliging may act) (t : Trial) (h : Handler) :
    Follows may passes [] (t.run act h) := by
  have delivered : Follows may passes [] (t.deliver act (t.adapter h)) := by
    unfold Trial.deliver
    split
    · exact .bind_rest (misdirect_follows _) fun _ => .of_pure _
    · split
      · exact .bind_rest (conclude_follows _ obliging _ _) fun _ => .of_pure _
      · exact adapter_receive_follows _ obliging _ _
  refine .bind_rest delivered fun rest => ?_
  exact .bind_rest (.of_silent (silent_caught .spare)) fun _ => .of_pure _

theorem drop_receiver_follows (r : Receiver) : Follows may passes [] r.drop := by
  cases r with
  | adapter s a => exact .of_silent (silent_drop _)
  | probe => exact .of_pure _

theorem rawReceiver_charge? (h : Option Handler) : (rawReceiver h).charge? = none := by
  cases h <;> rfl

theorem handOver_raw_follows (service : Service) (body : Option AnyRequest) (h : Option Handler) :
    Follows may passes [] (handOver service body (rawReceiver h)) := by
  intro s r t handed others
  cases transport : s.transport with
  | loopback l =>
    rcases handOver_loopback transport handed with
      ⟨id, l', taken, -, same⟩ | ⟨status, l', refused, -, same⟩
    · rw [same]
      exact .of_move (.acceptOther (p := s.outline passes others) transport taken
        (rawReceiver_charge? h)) rfl (by simp [Occurrence.concluded?])
    · rw [same]
      exact .of_move (.refuseOther (p := s.outline passes others) transport refused
        (rawReceiver_charge? h)) rfl (by simp [Occurrence.concluded?])
  | prepared p => exact (handOver_prepared (by rw [transport]; rfl) handed).leads _ _ _ _

theorem submitRaw_follows (service : Service) (body : Option AnyRequest) (h : Option Handler)
    (n : Nat) : Follows may passes [] (perform1 n act (.submitRaw service body h)) := by
  refine .bind_rest (handOver_raw_follows service body h) fun r => ?_
  cases r with
  | ok id => exact .of_pure _
  | error e => exact .bind_rest (drop_receiver_follows _) fun _ => .of_pure _

theorem complete_follows (obliging : Obliging may act) (slot : String) (code : StatusCode)
    (value : Int64) (n : Nat) :
    Follows may passes [] (perform1 n act (.complete slot code value)) := by
  refine .bind_rest (.of_silent .of_get) fun s => ?_
  split
  · refine .bind_rest (.of_silent (.of_modify fun _ _ _ => rfl)) fun _ => ?_
    exact .bind_rest (invoke_follows obliging _ _ _) fun _ => .of_pure _
  · split
    · refine .bind_rest (.of_silent (.of_modify fun _ _ _ => rfl)) fun _ => ?_
      exact .bind_rest (invoke_follows obliging _ _ _) fun _ => .of_pure _
    · exact .of_pure _

theorem perform1_follows (obliging : Obliging may act) (n : Nat) (step : Step)
    (granted : step.Granted may passes) : Follows may passes [] (perform1 n act step) := by
  cases step with
  | call c token => exact dispatch_follows obliging n token _ granted
  | start slot token => exact dispatch_follows obliging n token _ granted
  | startUnit slot token => exact dispatch_follows obliging n token _ granted
  | immediate code value token => exact dispatch_follows obliging n token _ granted
  | launch name token =>
    refine .bind_rest (.of_silent .of_get) fun s => ?_
    split
    · exact .of_pure _
    · refine .bind_rest (.of_silent (.of_modify fun _ _ _ => rfl)) fun _ => ?_
      exact dispatch_follows obliging n token _ granted
  | tryAdapter trial h => exact trial_follows obliging trial h
  | submitRaw service body h => exact submitRaw_follows service body h n
  | run =>
    have pass : may .pass passes := granted .pass (by simp [Step.needs])
    have rethrows : may .rethrow passes := granted .rethrow (by simp [Step.needs])
    exact .bind_rest (runIterate_follows obliging pass rethrows) fun _ => .of_pure _
  | pump =>
    have pass : may .pass passes := granted .pass (by simp [Step.needs])
    refine .bind_rest (note_follows rfl) fun _ => ?_
    exact .bind_rest (pump_follows obliging pass) fun _ => .of_pure _
  | close => exact .bind_rest (setConnected_follows false) fun _ => .of_pure _
  | reopen => exact .bind_rest (setConnected_follows true) fun _ => .of_pure _
  | failNextSubmit status => exact .bind_rest (failNextSubmit_follows status) fun _ => .of_pure _
  | dropNextResponse =>
    exact .bind_rest (onLoopback_follows fun _ => .dropNext) fun _ => .of_pure _
  | config => exact .bind_rest (.of_silent .of_get) fun _ => .of_pure _
  | describe subject => exact .bind_rest (.of_silent .of_get) fun _ => .of_pure _
  | catcher desk a => exact actOnCatcher_follows desk a granted
  | take name => exact withFuture_follows name lookAt_follows
  | poll name => exact withFuture_follows name lookAt_follows
  | wait name =>
    have pass : may .pass passes := granted .pass (by simp [Step.needs])
    have rethrows : may .rethrow passes := granted .rethrow (by simp [Step.needs])
    refine withFuture_follows name fun cell => ?_
    refine .bind_rest (forgetFuture_follows name) fun _ => ?_
    exact .bind_rest (wait_follows obliging pass rethrows n cell) fun _ => .of_pure _
  | forget name =>
    refine withFuture_follows name fun _ => ?_
    exact .bind_rest (forgetFuture_follows name) fun _ => .of_pure _
  | forgetDeferred name =>
    refine .bind_rest (.of_silent .of_get) fun _ => ?_
    exact .bind_rest (.of_silent (.of_modify fun _ _ _ => rfl)) fun _ => .of_pure _
  | complete slot code value => exact complete_follows obliging slot code value n
  | abandon slot => exact abandon_follows slot
  | space a => exact onSpace_follows a granted
  | plan p => exact .bind_rest (onPrepared_follows _) fun _ => .of_pure _
  | planPass p => exact .bind_rest (onPrepared_follows _) fun _ => .of_pure _

/-! ### Runs -/

/-- What holds of a step that is carried out holds of one that application code takes: a step
beyond its powers is on record, so nothing is claimed of what comes after. -/
theorem takeStep_follows
    (h : ∀ (may : Power → List Pass → Prop) (passes : List Pass) (step : Step),
      step.Granted may passes → Follows may passes [] (act step)) : Obliging may act where
  follows := by
    intro step passes s x t run others
    obtain ⟨_, u, noted, run⟩ := bind_some run
    have taken : Leads may (s.outline passes others) (u.outline passes others) :=
      note_follows rfl s _ u noted others
    by_cases granted : step.Granted may passes
    · exact taken.trans (h may passes step granted u x t run others)
    · -- Without the powers the step is still followed by something, and the record of it stays.
      obtain ⟨kind, os, history, carries, -⟩ :=
        h (fun _ _ => True) passes step (fun _ _ => trivial) u x t run others
      have took : Carries [.took step] := .of_apart (by simp [Occurrence.concluded?])
      refine ⟨taken.1.trans kind, .took step :: os, ?_, took.append carries, ?_⟩
      · rw [history, outline_note noted, Outline.add, List.append_assoc]
        rfl
      · intro modest
        exact absurd (fun power needed => modest step List.mem_cons_self power needed passes)
          granted
  grows step := (h (fun _ _ => True) [] step fun _ _ => trivial).grows

theorem perform_follows (depth : Nat) (may : Power → List Pass → Prop) (passes : List Pass)
    (step : Step) (granted : step.Granted may passes) :
    Follows may passes [] (perform depth step) := by
  induction depth generalizing may passes step with
  | zero => exact exhausted_follows
  | succ depth ih => exact perform1_follows (takeStep_follows ih) depth step granted

theorem perform_leads {depth : Nat} {step : Step} {s t : State} {answer : Answer}
    (granted : step.Granted may passes) (run : perform depth step s = some (answer, t))
    (due : List (Nat × Completion)) : Leads may (s.outline passes due) (t.outline passes due) :=
  perform_follows depth may passes step granted s answer t run due

theorem playFrom_leads {depth seen : Nat} {s : State} {steps : List Step} {reports : List Report}
    (granted : ∀ step ∈ steps, step.Granted may passes)
    (run : playFrom depth seen s steps = some reports) :
    ∀ report ∈ reports, Leads may (s.outline passes []) (report.after.outline passes []) := by
  induction steps generalizing s seen reports with
  | nil =>
    cases run
    simp
  | cons step rest ih =>
    obtain ⟨⟨answer, t⟩, first, run⟩ := Option.bind_eq_some_iff.mp run
    obtain ⟨later, played, run⟩ := Option.bind_eq_some_iff.mp run
    cases run
    have one : Leads may (s.outline passes []) (t.outline passes []) :=
      perform_leads (granted step List.mem_cons_self) first []
    intro report member
    rcases List.mem_cons.mp member with rfl | member
    · exact one
    · exact one.trans
        (ih (fun step member => granted step (List.mem_cons_of_mem _ member)) played report member)

/-- A run that comes to an end, with reports that meet a condition, has reports of which all is true
that is true of every such run's. -/
theorem ends_well {depth : Nat} {s : State} {steps : List Step} {Q P : List Report → Prop}
    [DecidablePred Q] (ends : (play depth s steps).any fun reports => Q reports)
    (h : ∀ reports, play depth s steps = some reports → Q reports → P reports) :
    ∃ reports, play depth s steps = some reports ∧ P reports := by
  obtain ⟨reports, run, meets⟩ := (Option.any_eq_true _ _).mp ends
  exact ⟨reports, run, h reports run (of_decide_eq_true meets)⟩

end OpcUa.Client
