import OpcUa.Json.Values
import OpcUa.Proofs.Json.Forms
import OpcUa.Proofs.Timestamp.Text

/-!
Identifiers, names and attribute values are given back by their forms. Floating-point numbers are
left out: the decimal numbers written for them are not followed here.
-/

namespace OpcUa

open Form
open Record (required_returns and_returns)

/-! ### Identifiers and names -/

theorem StatusCode.form_returns (c : StatusCode) : StatusCode.form.Returns c :=
  via_returns (uint32_returns c.bits) rfl

theorem NodeClass.form_returns (c : NodeClass) : NodeClass.form.Returns c :=
  named_returns (by cases c <;> decide)

theorem AttributeId.form_returns (a : AttributeId) : AttributeId.form.Returns a :=
  named_returns (by cases a <;> decide)

theorem Timestamp.form_returns {t : Timestamp} (common : t.IsCommon) : Timestamp.form.Returns t :=
  via_returns (string_returns t.text) (ofText?_text common)

namespace Identifier

theorem Kind.form_returns (k : Kind) : Kind.form.Returns k :=
  named_returns (by cases k <;> decide)

theorem writeValue_returns (i : Identifier) : raw.Returns i.writeValue := by
  cases i with
  | numeric n => exact raw_returns (uint32_returns n).sound fun _ => Json.isWithin_ofInt _ _
  | text s => exact raw_returns (string_returns s).sound fun _ => Json.isWithin_ofString _ s

theorem readValue_writeValue (i : Identifier) : readValue i.writeValue i.kind = some i := by
  cases i with
  | numeric n =>
    have read := (uint32_returns n).read 0
    have within : (uint32.write n).isWithin 0 := Json.isWithin_ofInt 0 _
    rw [if_pos within] at read
    exact congrArg (Option.map numeric) read
  | text s => rfl

theorem form_returns (i : Identifier) : Identifier.form.Returns i := by
  have members := and_returns (required_returns "type" (Kind.form_returns i.kind))
    (required_returns "value" (writeValue_returns i))
  have object : (formWith Kind.form).Returns i :=
    via_returns (Record.form_returns members (by decide)) (readValue_writeValue i)
  exact ⟨object.sound, object.read⟩

end Identifier

theorem NodeId.form_returns (id : NodeId) : NodeId.form.Returns id :=
  have members := and_returns
    (required_returns "namespace_index" (uint16_returns id.namespaceIndex))
    (required_returns "identifier" (Identifier.form_returns id.identifier))
  via_returns (Record.form_returns members (by decide)) rfl

theorem QualifiedName.form_returns (q : QualifiedName) : QualifiedName.form.Returns q :=
  have members := and_returns (required_returns "namespace_index" (uint16_returns q.namespaceIndex))
    (required_returns "name" (string_returns q.name))
  via_returns (Record.form_returns members (by decide)) rfl

theorem LocalizedText.form_returns (t : LocalizedText) : LocalizedText.form.Returns t :=
  have members := and_returns (required_returns "locale" (string_returns t.locale))
    (required_returns "text" (string_returns t.text))
  via_returns (Record.form_returns members (by decide)) rfl

/-! ### Variants -/

/-- Whether a variant holds no floating-point number, and only common points in time. -/
def Variant.IsPlain : Variant → Prop
  | .float _ | .double _ => False
  | .dateTime t => t.IsCommon
  | .array vs => ∀ v ∈ vs, v.IsPlain
  | _ => True

namespace Variant

theorem isPlain_dateTime {t : Timestamp} : (dateTime t).IsPlain ↔ t.IsCommon := by
  rw [IsPlain]

theorem isPlain_array {vs : List Variant} : (array vs).IsPlain ↔ ∀ v ∈ vs, v.IsPlain := by
  rw [IsPlain]

theorem tagged_sound (tag : String) {j : Json} (sound : j.Sound) : (tagged tag j).Sound :=
  .object (by simp) (by simpa using sound)

theorem isWithin_tagged (tag : String) (j : Json) (levels : Nat) :
    (tagged tag j).isWithin (levels + 1) = j.isWithin levels := by
  simp [tagged]

theorem ofJson?_zero (tag : String) (j : Json) : ofJson? 0 (tagged tag j) = none := by
  simp [tagged, Json.ofMembers, ofJson?]

theorem ofJson?_tagged {tag : String} (other : tag ∉ ["Array", "Empty"]) (levels : Nat) (j : Json) :
    ofJson? (levels + 1) (tagged tag j) = readScalar levels tag j := by
  simp only [List.mem_cons, List.not_mem_nil, or_false, not_or] at other
  simp only [tagged, Json.ofMembers, List.map_cons, List.map_nil]
  rw [ofJson?.eq_def]
  split <;> simp_all

/-- A value in a variant is given back if its own form gives it back. -/
theorem tagged_returns {α : Type} {f : Form α} {a : α} (tag : String) {make : α → Variant}
    (returns : f.Returns a) (written : toJson (make a) = tagged tag (f.write a))
    (read : ∀ levels j, readScalar levels tag j = (f.read levels j).map make)
    (other : tag ∉ ["Array", "Empty"]) : form.Returns (make a) := by
  replace written : form.write (make a) = tagged tag (f.write a) := written
  refine ⟨?_, fun levels => ?_⟩
  all_goals rw [written]
  · exact tagged_sound tag returns.sound
  · cases levels with
    | zero => exact ofJson?_zero tag (f.write a)
    | succ levels =>
      have value : form.read (levels + 1) (tagged tag (f.write a)) =
          (f.read levels (f.write a)).map make := by
        rw [← read]
        exact ofJson?_tagged other levels _
      rw [value, returns.read, isWithin_tagged]
      split <;> rfl

theorem empty_returns : form.Returns empty := by
  have written : form.write empty = .ofString "Empty" := by simp [form, toJson]
  refine .of_flat ?_ ?_ ?_
  all_goals rw [written]
  · exact .text "Empty"
  · exact fun levels => Json.isWithin_ofString levels "Empty"
  · intro levels
    simp [form, ofJson?, Json.ofString]

theorem array_returns {vs : List Variant} (returns : ∀ v ∈ vs, form.Returns v) :
    form.Returns (array vs) := by
  have written : form.write (array vs) = tagged "Array" (.array (vs.map form.write)) := by
    simp [form, toJson]
  refine ⟨?_, fun levels => ?_⟩
  all_goals rw [written]
  · refine tagged_sound "Array" (.array fun v member => ?_)
    obtain ⟨w, listed, rfl⟩ := List.mem_map.mp member
    exact (returns w listed).sound
  · obtain _ | _ | levels := levels
    · exact ofJson?_zero "Array" (.array (vs.map form.write))
    · rfl
    · have elements : (vs.map form.write).mapM (ofJson? levels) = _ := mapM_write returns levels
      have read : form.read (levels + 2) (tagged "Array" (.array (vs.map form.write))) =
          ((vs.map form.write).mapM (ofJson? levels)).map array := rfl
      rw [read, elements, isWithin_tagged, Json.isWithin_array]
      split <;> rfl

/-- A variant is given back if it is plain. -/
theorem form_returns {v : Variant} (plain : v.IsPlain) : form.Returns v := by
  cases v with
  | empty => exact empty_returns
  | boolean b =>
    exact tagged_returns "Boolean" (bool_returns b) (by rw [toJson])
      (fun _ _ => rfl) (by decide)
  | sbyte n =>
    exact tagged_returns "SByte" (int8_returns n) (by rw [toJson])
      (fun _ _ => rfl) (by decide)
  | byte n =>
    exact tagged_returns "Byte" (uint8_returns n) (by rw [toJson])
      (fun _ _ => rfl) (by decide)
  | int16 n =>
    exact tagged_returns "Int16" (int16_returns n) (by rw [toJson])
      (fun _ _ => rfl) (by decide)
  | uint16 n =>
    exact tagged_returns "UInt16" (uint16_returns n) (by rw [toJson])
      (fun _ _ => rfl) (by decide)
  | int32 n =>
    exact tagged_returns "Int32" (int32_returns n) (by rw [toJson])
      (fun _ _ => rfl) (by decide)
  | uint32 n =>
    exact tagged_returns "UInt32" (uint32_returns n) (by rw [toJson])
      (fun _ _ => rfl) (by decide)
  | int64 n =>
    exact tagged_returns "Int64" (int64_returns n) (by rw [toJson])
      (fun _ _ => rfl) (by decide)
  | uint64 n =>
    exact tagged_returns "UInt64" (uint64_returns n) (by rw [toJson])
      (fun _ _ => rfl) (by decide)
  | string s =>
    exact tagged_returns "String" (string_returns s) (by rw [toJson])
      (fun _ _ => rfl) (by decide)
  | dateTime t =>
    rw [isPlain_dateTime] at plain
    exact tagged_returns "DateTime" (Timestamp.form_returns plain) (by rw [toJson])
      (fun _ _ => rfl) (by decide)
  | byteString bytes =>
    exact tagged_returns "ByteString" (list_returns fun b _ => uint8_returns b) (by rw [toJson])
      (fun _ _ => rfl) (by decide)
  | nodeId id =>
    exact tagged_returns "NodeId" (NodeId.form_returns id) (by rw [toJson])
      (fun _ _ => rfl) (by decide)
  | qualifiedName q =>
    exact tagged_returns "QualifiedName" (QualifiedName.form_returns q) (by rw [toJson])
      (fun _ _ => rfl) (by decide)
  | localizedText t =>
    exact tagged_returns "LocalizedText" (LocalizedText.form_returns t) (by rw [toJson])
      (fun _ _ => rfl) (by decide)
  | statusCode c =>
    exact tagged_returns "StatusCode" (StatusCode.form_returns c) (by rw [toJson])
      (fun _ _ => rfl) (by decide)
  | float | double => simp [IsPlain] at plain
  | array vs =>
    rw [isPlain_array] at plain
    exact array_returns fun v member => form_returns (plain v member)

/-- So many arrays within one another, with nothing in the last. -/
def nested : Nat → Variant
  | 0 => empty
  | depth + 1 => array [nested depth]

theorem nested_isPlain (depth : Nat) : (nested depth).IsPlain := by
  induction depth with
  | zero => simp [nested, IsPlain]
  | succ depth ih => simp [nested, isPlain_array, ih]

theorem isWithin_nested (depth levels : Nat) :
    (form.write (nested depth)).isWithin levels ↔ 2 * depth ≤ levels := by
  induction depth generalizing levels with
  | zero => simp [nested, form, toJson]
  | succ depth ih =>
    have written : form.write (nested (depth + 1)) =
        tagged "Array" (.array [form.write (nested depth)]) := by
      simp [nested, form, toJson]
    rw [written]
    obtain _ | _ | levels := levels
    · simp [tagged, Json.ofMembers, Json.isWithin]
    · simp [tagged, Json.ofMembers, Json.isWithin]
      omega
    · have inner := ih levels
      simp [isWithin_tagged, inner]
      omega

/-- Each array takes two levels, so that no more than 63 of them can be read. -/
theorem nested_survives_iff (depth : Nat) : form.Survives (nested depth) ↔ depth ≤ 63 := by
  rw [(form_returns (nested_isPlain depth)).survives_iff, Fits, isWithin_nested, levelLimit]
  omega

theorem write_ne_null (v : Variant) : form.write v ≠ .null := by
  cases v <;> simp [form, toJson, tagged, Json.ofString, Json.ofMembers]

end Variant

/-! ### Data values -/

/-- Whether a value with its times holds no floating-point number, and only common points in
time. -/
structure DataValue.IsPlain (v : DataValue) : Prop where
  value : v.value.IsPlain
  source : ∀ t ∈ v.sourceTimestamp, t.IsCommon
  server : ∀ t ∈ v.serverTimestamp, t.IsCommon

theorem Timestamp.optional_returns {t : Option Timestamp} (common : ∀ s ∈ t, s.IsCommon) :
    Timestamp.form.optional.Returns t :=
  Form.optional_returns (fun s present => form_returns (common s present)) fun _ _ => nofun

theorem DataValue.form_returns {v : DataValue} (plain : v.IsPlain) : DataValue.form.Returns v :=
  have members := and_returns (required_returns "value" (Variant.form_returns plain.value)) <|
    and_returns (required_returns "status" (StatusCode.form_returns v.status)) <|
    and_returns
      (Record.optional_returns "source_timestamp" (Timestamp.optional_returns plain.source)) <|
    Record.optional_returns "server_timestamp" (Timestamp.optional_returns plain.server)
  via_returns (Record.form_returns members (by decide)) rfl

/-! ### Levels -/

@[simp] theorem StatusCode.isWithin (c : StatusCode) (levels : Nat) :
    (StatusCode.form.write c).isWithin levels := by
  simp [StatusCode.form]

@[simp] theorem Identifier.isWithin (i : Identifier) (levels : Nat) :
    (Identifier.form.write i).isWithin (levels + 1) := by
  cases i <;> simp [form, formWith, Kind.form, writeValue, raw]

@[simp] theorem NodeId.isWithin (id : NodeId) (levels : Nat) :
    (NodeId.form.write id).isWithin (levels + 2) := by
  simp [NodeId.form]

@[simp] theorem QualifiedName.isWithin (q : QualifiedName) (levels : Nat) :
    (QualifiedName.form.write q).isWithin (levels + 1) := by
  simp [QualifiedName.form]

@[simp] theorem LocalizedText.isWithin (t : LocalizedText) (levels : Nat) :
    (LocalizedText.form.write t).isWithin (levels + 1) := by
  simp [LocalizedText.form]

end OpcUa
