import Mathlib.Tactic.MkIffOfInductiveProp
import OpcUa.Proofs.Config.RoundTrip
import OpcUa.Proofs.Toml.Keys

/-!
Loading settings. What a document says is read into a draft, in which the settings that it leaves
out are unset as in one that is built by hand; the environment overrides two of the settings; and
only valid settings come out. A variable that is set is thus all that counts for its setting, as
long as the document can be read at all.
-/

namespace OpcUa.Config

/-! ### Validity -/

/-- An endpoint that names the protocol of the client. -/
def HasScheme (endpoint : String) : Prop := ∃ rest, endpoint = "opc.tcp://" ++ rest

theorem startsWith_scheme_iff {endpoint : String} :
    endpoint.startsWith scheme ↔ HasScheme endpoint := by
  rw [String.startsWith_string_iff]
  constructor
  · rintro ⟨rest, same⟩
    exact ⟨String.ofList rest, String.toList_inj.mp (by simp [← same, scheme])⟩
  · rintro ⟨rest, rfl⟩
    exact ⟨rest.toList, by simp [scheme]⟩

theorem HasScheme.nonempty {endpoint : String} (reached : HasScheme endpoint) :
    endpoint.isEmpty = false := by
  obtain ⟨rest, rfl⟩ := reached
  simp

theorem validate_ok_iff (c : Config) :
    c.validate = .ok () ↔ HasScheme c.endpoint ∧ c.requestTimeout ≠ .zero := by
  unfold validate
  by_cases reached : HasScheme c.endpoint
  · have zero : c.requestTimeout.isZero ↔ c.requestTimeout = .zero := Duration.isZero_iff
    simp [reached, reached.nonempty, startsWith_scheme_iff.mpr reached, ← zero]
  · have foreign : c.endpoint.startsWith scheme = false := by
      rw [← Bool.not_eq_true, startsWith_scheme_iff]
      exact reached
    rw [foreign]
    cases c.endpoint.isEmpty <;> simp [reached]

theorem checked_ok_iff {c c' : Config} : c.checked = .ok c' ↔ c.validate = .ok () ∧ c' = c := by
  unfold checked
  cases c.validate with
  | ok => simp [eq_comm]
  | error e => simp

theorem build_ok_iff {d : Draft} {c : Config} :
    d.build = .ok c ↔ d.filled = some c ∧ c.validate = .ok () := by
  unfold Draft.build
  cases d.filled with
  | none => simp
  | some filled =>
    simp only [checked_ok_iff, Option.some.injEq]
    constructor
    · rintro ⟨valid, rfl⟩
      exact ⟨rfl, valid⟩
    · rintro ⟨rfl, valid⟩
      exact ⟨valid, rfl⟩

/-! ### Drafts of documents -/

/-- What the members of a document make of a setting: the value under its key as it is read, or what
it was if there is no such key. -/
def settingOf {α : Type} (read : Toml.Value → Except Misfit α) (key : String) (ms : Toml.Members)
    (before : Option α) : Except Misfit (Option α) :=
  match ms.lookup key with
  | none => .ok before
  | some v => (read v).map some

/-- The second draft is the first one with the settings of the members in it. -/
@[mk_iff]
structure Draft.Takes (ms : Toml.Members) (before after : Draft) : Prop where
  endpoint : settingOf textOf "endpoint" ms before.endpoint = .ok after.endpoint
  applicationName :
    settingOf textOf "application_name" ms before.applicationName = .ok after.applicationName
  sessionName : settingOf textOf "session_name" ms before.sessionName = .ok after.sessionName
  requestTimeout :
    settingOf durationOf "request_timeout" ms before.requestTimeout = .ok after.requestTimeout
  maxPending : settingOf countOf "max_pending_requests" ms before.maxPending = .ok after.maxPending

theorem settingOf_cons {α : Type} {read : Toml.Value → Except Misfit α} {key : String}
    {m : String × Toml.Value} {ms : Toml.Members} (new : ms.lookup m.1 = none)
    {before after : Option α} :
    settingOf read key (m :: ms) before = .ok after ↔
      ∃ between, settingOf read key [m] before = .ok between ∧
        settingOf read key ms between = .ok after := by
  obtain ⟨name, v⟩ := m
  by_cases same : key = name
  · subst same
    cases value : read v with
    | error e => simp [settingOf, value, Except.map]
    | ok x => simp [settingOf, value, Except.map, new]
  · have other : (key == name) = false := beq_eq_false_iff_ne.mpr same
    simp [settingOf, List.lookup_cons, other]

theorem Draft.takes_cons {m : String × Toml.Value} {ms : Toml.Members}
    (new : ms.lookup m.1 = none) {before after : Draft} :
    Draft.Takes (m :: ms) before after ↔
      ∃ between, Draft.Takes [m] before between ∧ Draft.Takes ms between after := by
  constructor
  · rintro ⟨endpoint, application, session, timeout, pending⟩
    obtain ⟨e, first, endpoint⟩ := (settingOf_cons new).mp endpoint
    obtain ⟨a, second, application⟩ := (settingOf_cons new).mp application
    obtain ⟨s, third, session⟩ := (settingOf_cons new).mp session
    obtain ⟨t, fourth, timeout⟩ := (settingOf_cons new).mp timeout
    obtain ⟨p, fifth, pending⟩ := (settingOf_cons new).mp pending
    exact ⟨⟨e, a, s, t, p⟩, ⟨first, second, third, fourth, fifth⟩,
      ⟨endpoint, application, session, timeout, pending⟩⟩
  · rintro ⟨between, first, rest⟩
    exact {
      endpoint := (settingOf_cons new).mpr ⟨_, first.endpoint, rest.endpoint⟩
      applicationName := (settingOf_cons new).mpr ⟨_, first.applicationName, rest.applicationName⟩
      sessionName := (settingOf_cons new).mpr ⟨_, first.sessionName, rest.sessionName⟩
      requestTimeout := (settingOf_cons new).mpr ⟨_, first.requestTimeout, rest.requestTimeout⟩
      maxPending := (settingOf_cons new).mpr ⟨_, first.maxPending, rest.maxPending⟩ }

theorem Draft.takes_nil {before after : Draft} : Draft.Takes [] before after ↔ after = before := by
  constructor
  · rintro ⟨endpoint, application, session, timeout, pending⟩
    obtain ⟨e, a, s, t, p⟩ := before
    cases endpoint
    cases application
    cases session
    cases timeout
    cases pending
    rfl
  · rintro rfl
    exact ⟨rfl, rfl, rfl, rfl, rfl⟩

theorem settingOf_same {α : Type} {read : Toml.Value → Except Misfit α} {key : String}
    {v : Toml.Value} {before after : Option α} :
    settingOf read key [(key, v)] before = .ok after ↔ ∃ x, read v = .ok x ∧ some x = after := by
  cases value : read v <;> simp [settingOf, value, Except.map]

theorem settingOf_other {α : Type} {read : Toml.Value → Except Misfit α} {key name : String}
    (other : name ≠ key) {v : Toml.Value} {before after : Option α} :
    settingOf read key [(name, v)] before = .ok after ↔ before = after := by
  have unlike : (key == name) = false := beq_eq_false_iff_ne.mpr other.symm
  simp [settingOf, List.lookup_cons, unlike]

theorem set_ok_iff {α : Type} {value : Except Misfit α} {set : α → Draft} {after : Draft} :
    set <$> value = .ok after ↔ ∃ x, value = .ok x ∧ set x = after := by
  cases value <;> simp [Functor.map, Except.map]

/-- One member sets what its key names, if its value can be read, and nothing else. -/
theorem Draft.take_ok_iff {before after : Draft} {key : String} {v : Toml.Value} :
    before.take key v = .ok after ↔ Draft.Takes [(key, v)] before after := by
  obtain ⟨e, a, s, t, p⟩ := before
  obtain ⟨e', a', s', t', p'⟩ := after
  rw [Draft.takes_iff]
  unfold Draft.take
  split
  case h_6 endpoint application session timeout pending =>
    simp [settingOf_other endpoint, settingOf_other application, settingOf_other session,
      settingOf_other timeout, settingOf_other pending]
  -- what is left says the same with the value that is read at different depths
  all_goals
    simp only [bind_pure_comp, set_ok_iff, settingOf_same, Draft.mk.injEq, ne_eq, String.reduceEq,
      not_false_eq_true, settingOf_other]
    grind

theorem Draft.foldlM_take_ok_iff {ms : Toml.Members} (distinct : ms.Distinct)
    {before after : Draft} :
    ms.foldlM (fun d m => Draft.take d m.1 m.2) before = .ok after ↔
      Draft.Takes ms before after := by
  induction ms generalizing before with
  | nil => simp [Draft.takes_nil, pure, Except.pure, eq_comm]
  | cons m ms ih =>
    obtain ⟨key, v⟩ := m
    obtain ⟨other, distinct⟩ := List.nodup_cons.mp distinct
    rw [List.foldlM_cons, Draft.takes_cons (Toml.Members.isNew_iff.mpr other)]
    simp only [← Draft.take_ok_iff, ← ih distinct]
    cases before.take key v <;> simp [bind, Except.bind]

/-- Settings are read off a document exactly if a draft takes over what its members say and names
an endpoint. -/
theorem ofToml_ok_iff {text : String} {f : Config} :
    ofToml text = .ok f ↔
      ∃ ms d, Toml.ofText? text = some ms ∧ Draft.Takes ms {} d ∧ d.filled = some f := by
  unfold ofToml
  cases read : Toml.ofText? text with
  | none => simp
  | some ms =>
    have members : ofMembers ms = .ok f ↔ ∃ d, Draft.Takes ms {} d ∧ d.filled = some f := by
      unfold ofMembers
      simp only [← Draft.foldlM_take_ok_iff (Toml.ofText?_distinct read)]
      cases ms.foldlM (fun d m => Draft.take d m.1 m.2) {} with
      | error e => simp [bind, Except.bind]
      | ok d => cases filled : d.filled <;> simp [bind, Except.bind, filled]
    simp only [Option.some.injEq, exists_and_left, exists_eq_left', ← members]
    cases ofMembers ms <;> simp

/-! ### Settings that are left out -/

theorem Draft.filled_iff {d : Draft} {c : Config} :
    d.filled = some c ↔
      d.endpoint = some c.endpoint ∧
      c.applicationName = d.applicationName.getD "ua-async client" ∧
      c.sessionName = d.sessionName ∧
      c.requestTimeout = d.requestTimeout.getD (.ofSeconds 10) ∧
      c.maxPending = d.maxPending.getD 0 := by
  obtain ⟨endpoint, application, session, timeout, pending⟩ := c
  unfold Draft.filled
  cases d.endpoint with
  | none => simp
  | some e =>
    simp only [Option.map_some, Option.some.injEq, Config.mk.injEq]
    grind

/-- Settings that were read off members agree with settings that were built in whatever neither the
members nor the builder set. -/
structure AgreeInUnset (ms : Toml.Members) (f : Config) (d : Draft) (built : Config) : Prop where
  applicationName : ms.lookup "application_name" = none → d.applicationName = none →
    f.applicationName = built.applicationName
  sessionName : ms.lookup "session_name" = none → d.sessionName = none →
    f.sessionName = built.sessionName
  requestTimeout : ms.lookup "request_timeout" = none → d.requestTimeout = none →
    f.requestTimeout = built.requestTimeout
  maxPending : ms.lookup "max_pending_requests" = none → d.maxPending = none →
    f.maxPending = built.maxPending

theorem eq_none_of_absent {α : Type} {read : Toml.Value → Except Misfit α} {key : String}
    {ms : Toml.Members} (absent : ms.lookup key = none) {after : Option α}
    (taken : settingOf read key ms none = .ok after) : after = none := by
  simp only [settingOf, absent] at taken
  exact (Except.ok.inj taken).symm

theorem agreeInUnset {ms : Toml.Members} {taken d : Draft} {f built : Config}
    (takes : Draft.Takes ms {} taken) (read : taken.filled = some f)
    (filled : d.filled = some built) : AgreeInUnset ms f d built := by
  obtain ⟨-, application, session, timeout, pending⟩ := Draft.filled_iff.mp read
  obtain ⟨-, application', session', timeout', pending'⟩ := Draft.filled_iff.mp filled
  constructor
  · intro absent unset
    rw [application, application', eq_none_of_absent absent takes.applicationName, unset]
  · intro absent unset
    rw [session, session', eq_none_of_absent absent takes.sessionName, unset]
  · intro absent unset
    rw [timeout, timeout', eq_none_of_absent absent takes.requestTimeout, unset]
  · intro absent unset
    rw [pending, pending', eq_none_of_absent absent takes.maxPending, unset]

/-! ### Overrides -/

/-- The timeout that the environment asks for, or none; blanks around its text do not count. -/
def Overrides.duration (o : Overrides) : Except Duration.TextError (Option Duration) :=
  match o.timeout with
  | none => .ok none
  | some text => (Duration.ofUnitText (Text.trim text)).map some

theorem Overrides.duration_of_given {o : Overrides} {asked : String} {timeout : Option Duration}
    (given : o.timeout = some asked) (readable : o.duration = .ok timeout) :
    ∃ d, Duration.ofUnitText (Text.trim asked) = .ok d ∧ timeout = some d := by
  rw [Overrides.duration, given] at readable
  dsimp only at readable
  cases value : Duration.ofUnitText (Text.trim asked) with
  | error e =>
    rw [value] at readable
    cases readable
  | ok d =>
    rw [value] at readable
    cases readable
    exact ⟨d, rfl, rfl⟩

/-- The settings with what is given in place of their own. -/
def overriddenBy (c : Config) (endpoint : Option String) (timeout : Option Duration) : Config :=
  { c with
    endpoint := endpoint.getD c.endpoint
    requestTimeout := timeout.getD c.requestTimeout }

theorem Overrides.withEndpoint_eq (o : Overrides) (c : Config) :
    o.withEndpoint c = c.overriddenBy o.endpoint none := by
  unfold Overrides.withEndpoint overriddenBy
  cases o.endpoint <;> rfl

/-- What the overrides come to: all of them are applied, or the endpoint is and the timeout cannot
be read. -/
theorem Overrides.apply_cases (o : Overrides) (c : Config) :
    (∃ timeout, o.duration = .ok timeout ∧
      o.apply c = (.ok (), c.overriddenBy o.endpoint timeout)) ∨
    (∃ e, o.duration = .error e ∧
      o.apply c = (.error (.configuration
        (.unloadable timeoutVariable (.unreadable ("invalid duration: " ++ e.message)))),
        c.overriddenBy o.endpoint none)) := by
  unfold Overrides.duration Overrides.apply
  rw [o.withEndpoint_eq]
  cases o.timeout with
  | none => exact .inl ⟨none, rfl, rfl⟩
  | some text =>
    dsimp only
    cases Duration.ofUnitText (Text.trim text) with
    | ok d => exact .inl ⟨some d, rfl, rfl⟩
    | error e => exact .inr ⟨e, rfl, rfl⟩

theorem Overrides.apply_of_readable {o : Overrides} {timeout : Option Duration}
    (readable : o.duration = .ok timeout) (c : Config) :
    o.apply c = (.ok (), c.overriddenBy o.endpoint timeout) := by
  obtain ⟨asked, same, applied⟩ | ⟨e, same, -⟩ := o.apply_cases c
  · rw [readable] at same
    cases same
    exact applied
  · rw [readable] at same
    cases same

theorem Overrides.apply_of_unreadable {o : Overrides} {e : Duration.TextError}
    (unreadable : o.duration = .error e) (c : Config) :
    o.apply c =
      (.error (.configuration
        (.unloadable timeoutVariable (.unreadable ("invalid duration: " ++ e.message)))),
        c.overriddenBy o.endpoint none) := by
  obtain ⟨asked, same, -⟩ | ⟨e, same, applied⟩ := o.apply_cases c
  · rw [unreadable] at same
    cases same
  · rw [unreadable] at same
    cases same
    exact applied

/-- Overrides that succeed change exactly the settings whose variables are set, to what these ask
for. Overrides that fail have changed the endpoint already, if one is given: they leave the settings
as they were exactly if it is the endpoint that the settings had. -/
theorem overrides_all_or_nothing_unless_endpoint_given (o : Overrides) (c : Config) :
    (∀ timeout, o.duration = .ok timeout →
      o.apply c = (.ok (), c.overriddenBy o.endpoint timeout)) ∧
      (∀ e, o.duration = .error e →
        o.apply c =
          (.error (.configuration
            (.unloadable timeoutVariable (.unreadable ("invalid duration: " ++ e.message)))),
            c.overriddenBy o.endpoint none) ∧
          ((o.apply c).2 = c ↔ ∀ endpoint, o.endpoint = some endpoint → endpoint = c.endpoint)) := by
  refine ⟨fun _ readable => Overrides.apply_of_readable readable c, fun e unreadable => ?_⟩
  have failed := Overrides.apply_of_unreadable unreadable c
  refine ⟨failed, ?_⟩
  rw [failed]
  obtain ⟨endpoint, application, session, timeout, pending⟩ := c
  cases given : o.endpoint with
  | none => simp [overriddenBy]
  | some endpoint => simp [overriddenBy]

/-- An endpoint is given beside a timeout that is no duration. -/
theorem endpoint_overridden_though_timeout_failed :
    let o : Overrides := ⟨some "opc.tcp://new", some "later"⟩
    (∃ e, (o.apply {}).1 = .error e) ∧ (o.apply {}).2 = { endpoint := "opc.tcp://new" } ∧
      (o.apply {}).2 ≠ {} := by
  intro o
  have later : Duration.ofUnitText (Text.trim "later") = .error (.numberExpected 0) := rfl
  have unreadable : o.duration = .error (.numberExpected 0) := by
    simp [o, Overrides.duration, later, Except.map]
  obtain ⟨-, fails⟩ := overrides_all_or_nothing_unless_endpoint_given o {}
  obtain ⟨failed, kept⟩ := fails _ unreadable
  rw [failed] at kept ⊢
  refine ⟨⟨_, rfl⟩, rfl, ?_⟩
  rw [Ne, kept]
  intro same
  exact absurd (same "opc.tcp://new" rfl) (by decide)

/-! ### Loading -/

theorem settle_ok_iff {o : Overrides} {f c : Config} :
    settle o f = .ok c ↔
      ∃ timeout, o.duration = .ok timeout ∧ c = f.overriddenBy o.endpoint timeout ∧
        c.validate = .ok () := by
  unfold settle
  cases asked : o.duration with
  | error e =>
    rw [Overrides.apply_of_unreadable asked]
    simp
  | ok timeout =>
    rw [Overrides.apply_of_readable asked]
    simp only [checked_ok_iff, Except.ok.injEq, exists_eq_left']
    constructor
    · rintro ⟨valid, rfl⟩
      exact ⟨rfl, valid⟩
    · rintro ⟨rfl, valid⟩
      exact ⟨valid, rfl⟩

theorem ofText_ok_iff {source text : String} {o : Overrides} {c : Config} :
    (ofText source text o).outcome = .ok c ↔
      ∃ f timeout, ofToml text = .ok f ∧ o.duration = .ok timeout ∧
        c = f.overriddenBy o.endpoint timeout ∧ c.validate = .ok () := by
  unfold ofText
  cases ofToml text with
  | error e => cases e <;> simp
  | ok f => simp [settle_ok_iff]

theorem ofText_valid {source text : String} {o : Overrides} {c : Config}
    (loaded : (ofText source text o).outcome = .ok c) : c.validate = .ok () := by
  obtain ⟨_, _, -, -, -, valid⟩ := ofText_ok_iff.mp loaded
  exact valid

theorem ofFile_valid {path : String} {file : File} {o : Overrides} {c : Config}
    (loaded : (ofFile path file o).outcome = .ok c) : c.validate = .ok () := by
  unfold ofFile at loaded
  cases content : file.text with
  | error message =>
    rw [content] at loaded
    cases loaded
  | ok text =>
    rw [content] at loaded
    exact ofText_valid loaded

theorem ofText_fails {source text : String} {o : Overrides}
    (none : ∀ c, (ofText source text o).outcome ≠ .ok c) :
    ∃ e, (ofText source text o).outcome = .error e := by
  cases outcome : (ofText source text o).outcome with
  | error e => exact ⟨e, rfl⟩
  | ok c => exact absurd outcome (none c)

/-- Loading gives settings exactly if the document and the variables can be read, and the settings
are valid with the variables in their place. -/
theorem loaded_iff_valid_with_overrides (text : String) (o : Overrides) :
    (∀ c, (ofText textSource text o).outcome = .ok c ↔
      ∃ f timeout, ofToml text = .ok f ∧ o.duration = .ok timeout ∧
        c = f.overriddenBy o.endpoint timeout ∧ c.validate = .ok ()) ∧
      (∀ f, ofToml text = .ok f → ∃ ms, Toml.ofText? text = some ms ∧
        ∀ (d : Draft) built, d.build = .ok built → AgreeInUnset ms f d built) ∧
      (∀ c : Config, c.validate = .ok () ↔ HasScheme c.endpoint ∧ c.requestTimeout ≠ .zero) ∧
      (∀ (d : Draft) c, d.build = .ok c → c.validate = .ok ()) ∧
      (∀ c, (ofText textSource text o).outcome = .ok c → c.validate = .ok ()) ∧
      (∀ path file c, (ofFile path file o).outcome = .ok c → c.validate = .ok ()) ∧
      (∀ f timeout, ofToml text = .ok f → o.duration = .ok timeout →
        HasScheme (o.endpoint.getD f.endpoint) → timeout.getD f.requestTimeout ≠ .zero →
        (ofText textSource text o).outcome = .ok (f.overriddenBy o.endpoint timeout)) ∧
      (∀ endpoint, o.endpoint = some endpoint → ¬ HasScheme endpoint →
        ∃ e, (ofText textSource text o).outcome = .error e) ∧
      ∀ asked, o.timeout = some asked →
        (∀ d, Duration.ofUnitText (Text.trim asked) = .ok d → d = .zero) →
        ∃ e, (ofText textSource text o).outcome = .error e := by
  refine ⟨fun _ => ofText_ok_iff, ?_, validate_ok_iff, fun _ _ built => (build_ok_iff.mp built).2,
    fun _ => ofText_valid, fun _ _ _ => ofFile_valid, ?_, ?_, ?_⟩
  · intro f read
    obtain ⟨ms, taken, members, takes, filled⟩ := ofToml_ok_iff.mp read
    exact ⟨ms, members, fun d built done => agreeInUnset takes filled (build_ok_iff.mp done).1⟩
  · intro f timeout read asked reached lasting
    exact ofText_ok_iff.mpr
      ⟨f, timeout, read, asked, rfl, (validate_ok_iff _).mpr ⟨reached, lasting⟩⟩
  · intro endpoint given foreign
    apply ofText_fails
    intro c loaded
    obtain ⟨f, timeout, -, -, rfl, valid⟩ := ofText_ok_iff.mp loaded
    have reached := ((validate_ok_iff _).mp valid).1
    rw [overriddenBy, given] at reached
    exact foreign reached
  · intro asked given unusable
    apply ofText_fails
    intro c loaded
    obtain ⟨f, timeout, -, readable, rfl, valid⟩ := ofText_ok_iff.mp loaded
    obtain ⟨d, value, rfl⟩ := Overrides.duration_of_given given readable
    have lasting := ((validate_ok_iff _).mp valid).2
    exact lasting (unusable d value)

/-- A document with two values that are not valid is rescued by two variables; each variable fails
the load of a valid document if it is not valid itself. -/
theorem document_rescued_and_failed_by_variables :
    let faulty : Config := { endpoint := "plc", requestTimeout := .zero }
    let sound : Config := { endpoint := "opc.tcp://plc" }
    (∃ text, ofToml text = .ok faulty ∧
        (ofText textSource text ⟨some "opc.tcp://standby", some " 2s "⟩).outcome =
          .ok { endpoint := "opc.tcp://standby", requestTimeout := .ofSeconds 2 }) ∧
      ∃ text, (ofText textSource text {}).outcome = .ok sound ∧
        (∃ e, (ofText textSource text ⟨some "plc", none⟩).outcome = .error e) ∧
        ∃ e, (ofText textSource text ⟨none, some "soon"⟩).outcome = .error e := by
  intro faulty sound
  have readFaulty := ofToml_entries (c := faulty) (by decide)
  have readSound := ofToml_entries (c := sound) (by decide)
  have asked : Overrides.duration ⟨some "opc.tcp://standby", some " 2s "⟩ =
      .ok (some (.ofSeconds 2)) := rfl
  obtain ⟨-, -, -, -, -, -, rescued, -, -⟩ := loaded_iff_valid_with_overrides
    (String.ofList (faulty.entries.flatMap Toml.Entry.line))
    ⟨some "opc.tcp://standby", some " 2s "⟩
  have of_sound := loaded_iff_valid_with_overrides
    (String.ofList (sound.entries.flatMap Toml.Entry.line))
  obtain ⟨-, -, -, -, -, -, loaded, -, -⟩ := of_sound {}
  obtain ⟨-, -, -, -, -, -, -, failed, -⟩ := of_sound ⟨some "plc", none⟩
  obtain ⟨-, -, -, -, -, -, -, -, late⟩ := of_sound ⟨none, some "soon"⟩
  refine ⟨⟨_, readFaulty, ?_⟩, _, ?_, failed "plc" rfl ?_, late "soon" rfl ?_⟩
  · exact rescued faulty _ readFaulty asked ⟨"standby", rfl⟩ (by decide)
  · exact loaded sound _ readSound rfl ⟨"plc", rfl⟩ (by decide)
  · rw [← startsWith_scheme_iff]
    decide
  · have soon : Duration.ofUnitText (Text.trim "soon") = .error (.numberExpected 0) := rfl
    intro d value
    rw [soon] at value
    cases value

end OpcUa.Config
