import OpcUa.Config.Source
import OpcUa.Proofs.Duration.UnitText
import OpcUa.Proofs.Toml.Documents

/-!
Settings survive their document: the text that is written for them is read as the same settings. A
session name that is absent is left out of the document, and absent again when it is read.
-/

namespace OpcUa.Config

open Text

/-! ### The lines of a document -/

def textEntry (key value : String) : Toml.Entry :=
  ⟨key, Toml.writeString value.toList, .text value⟩

def limitEntry (limit : UInt64) : Toml.Entry :=
  ⟨"max_pending_requests", Decimal.digits limit.toNat, .integer limit.toNat⟩

def entries (c : Config) : List Toml.Entry :=
  textEntry "endpoint" c.endpoint :: textEntry "application_name" c.applicationName ::
  ((c.sessionName.map (textEntry "session_name")).toList ++
    [textEntry "request_timeout" c.requestTimeout.unitText, limitEntry c.maxPending])

theorem toToml?_entries {c : Config} (fits : (c.maxPending.toNat : Int) ≤ Int64.maxValue.toInt) :
    c.toToml? = some (String.ofList (c.entries.flatMap Toml.Entry.line)) := by
  have text : ∀ key value, (textEntry key value).line = textLine key value := fun _ _ => rfl
  have limit : (limitEntry c.maxPending).line =
      "max_pending_requests = ".toList ++ Decimal.digits c.maxPending.toNat ++ ['\n'] := by
    simp [limitEntry, Toml.Entry.line]
  rw [toToml?, if_pos fits]
  unfold entries
  congr 2
  cases c.sessionName
  all_goals
    simp only [Option.map_none, Option.map_some, Option.toList_none, Option.toList_some,
      List.flatMap_cons, List.flatMap_append, List.flatMap_nil, List.append_nil, text, limit,
      List.append_assoc, List.nil_append]

theorem textEntry_isSound {key : String} (nonempty : key.toList ≠ [])
    (bare : key.toList.all Toml.isBare) (value : String) : (textEntry key value).IsSound :=
  ⟨nonempty, List.all_eq_true.mp bare, Toml.writes_string value⟩

theorem entries_isSound {c : Config} (fits : (c.maxPending.toNat : Int) ≤ Int64.maxValue.toInt) :
    ∀ e ∈ c.entries, e.IsSound := by
  intro e member
  simp only [entries, List.mem_append, List.mem_cons, List.not_mem_nil, or_false,
    Option.mem_toList, Option.map_eq_some_iff] at member
  rcases member with rfl | rfl | ⟨name, -, rfl⟩ | rfl | rfl
  · exact textEntry_isSound (by decide) rfl _
  · exact textEntry_isSound (by decide) rfl _
  · exact textEntry_isSound (by decide) rfl _
  · exact textEntry_isSound (by decide) rfl _
  · have bare : "max_pending_requests".toList.all Toml.isBare := rfl
    exact ⟨by simp [limitEntry], List.all_eq_true.mp bare, Toml.writes_integer fits⟩

theorem entries_distinct (c : Config) : (c.entries.map Toml.Entry.key).Nodup := by
  unfold entries
  cases c.sessionName
  · show ["endpoint", "application_name", "request_timeout", "max_pending_requests"].Nodup
    decide
  · show ["endpoint", "application_name", "session_name", "request_timeout",
      "max_pending_requests"].Nodup
    decide

/-- The members of the document fill a draft of the settings. -/
theorem ofMembers_entries (c : Config) : ofMembers (c.entries.map Toml.Entry.member) = .ok c := by
  have timeout : durationOf (.text c.requestTimeout.unitText) = .ok c.requestTimeout := by
    simp only [durationOf, textOf, bind, Except.bind, Duration.ofUnitText_unitText]
  have limit : countOf (.integer c.maxPending.toNat) = .ok c.maxPending := by
    simp [countOf]
  obtain ⟨endpoint, application, session, duration, maxPending⟩ := c
  cases session
  all_goals
    simp only [ofMembers, entries, textEntry, limitEntry, Toml.Entry.member, Option.map_none,
      Option.map_some, Option.toList_none, Option.toList_some, List.nil_append, List.cons_append,
      List.map_cons, List.map_nil, List.foldlM_cons, List.foldlM_nil, Draft.take, timeout, limit]
    rfl

/-- Settings are read as they were written. -/
theorem ofToml_entries {c : Config} (fits : (c.maxPending.toNat : Int) ≤ Int64.maxValue.toInt) :
    ofToml (String.ofList (c.entries.flatMap Toml.Entry.line)) = .ok c := by
  rw [ofToml, Toml.ofText?_lines (entries_isSound fits) (entries_distinct c)]
  simp only [ofMembers_entries]

theorem ofText_outcome {text : String} {c : Config} (read : ofToml text = .ok c) (source : String) :
    (ofText source text {}).outcome = c.checked := by
  simp only [ofText, read]
  rfl

/-- What settings are written as is read as the same settings, and loading it without overrides
gives these settings if they are valid and otherwise says what is wrong with them. -/
theorem settings_survive_their_document (c : Config)
    (fits : (c.maxPending.toNat : Int) ≤ Int64.maxValue.toInt) :
    ∃ text, c.toToml? = some text ∧ ofToml text = .ok c ∧
      (c.validate = .ok () → (ofText textSource text {}).outcome = .ok c) ∧
      ∀ e, c.validate = .error e → (ofText textSource text {}).outcome = .error e := by
  refine ⟨_, toToml?_entries fits, ofToml_entries fits, ?_, ?_⟩
  · intro valid
    rw [ofText_outcome (ofToml_entries fits), checked, valid]
  · intro e invalid
    rw [ofText_outcome (ofToml_entries fits), checked, invalid]

/-- Settings whose texts take all four forms of a string, with the longest duration and the greatest
limit that can be written. -/
def extremes : Config where
  endpoint := "opc.tcp://\"localhost\":4840"
  applicationName := "'''\\\"\"\"\"\n\r\n\t\x07"
  sessionName := some "\\''"
  requestTimeout := ⟨18446744073709551615, 999999999, by decide⟩
  maxPending := 9223372036854775807

theorem extremes_survive :
    ∃ text, extremes.toToml? = some text ∧ ofToml text = .ok extremes ∧
      (ofText textSource text {}).outcome = .ok extremes := by
  have begins : extremes.endpoint.startsWith scheme :=
    String.startsWith_string_iff.mpr (by decide)
  have nonempty : extremes.endpoint.isEmpty = false := by decide
  have positive : extremes.requestTimeout.isZero = false := rfl
  have valid : extremes.validate = .ok () := by
    simp [validate, begins, nonempty, positive]
  obtain ⟨text, written, read, loaded, -⟩ := settings_survive_their_document extremes (by decide)
  exact ⟨text, written, read, loaded valid⟩

end OpcUa.Config
