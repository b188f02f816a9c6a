import OpcUa.Json.Messages
import OpcUa.Proofs.Json.Values

/-!
Requests and responses survive as text, and with them all that they are made of. Only values and the
attributes of new nodes can be nested; everything else is far below the number of levels that a
reader may enter.
-/

namespace OpcUa

open Form
open Record (required_returns and_returns)

/-! ### Headers -/

theorem RequestHeader.form_returns {h : RequestHeader} (common : h.timestamp.IsCommon) :
    RequestHeader.form.Returns h :=
  have members := and_returns
      (required_returns "request_handle" (uint32_returns h.requestHandle)) <|
    and_returns (required_returns "timestamp" (Timestamp.form_returns common)) <|
    required_returns "timeout_hint" (uint32_returns h.timeoutHint)
  via_returns (Record.form_returns members (by decide)) rfl

theorem ResponseHeader.form_returns {h : ResponseHeader} (common : h.timestamp.IsCommon) :
    ResponseHeader.form.Returns h :=
  have members := and_returns
      (required_returns "request_handle" (uint32_returns h.requestHandle)) <|
    and_returns (required_returns "timestamp" (Timestamp.form_returns common)) <|
    required_returns "service_result" (StatusCode.form_returns h.serviceResult)
  via_returns (Record.form_returns members (by decide)) rfl

@[simp] theorem RequestHeader.isWithin (h : RequestHeader) (levels : Nat) :
    (RequestHeader.form.write h).isWithin (levels + 1) := by
  simp [RequestHeader.form, Timestamp.form]

@[simp] theorem ResponseHeader.isWithin (h : ResponseHeader) (levels : Nat) :
    (ResponseHeader.form.write h).isWithin (levels + 1) := by
  simp [ResponseHeader.form, Timestamp.form]

/-! ### Items -/

theorem ReadItem.form_returns (i : ReadItem) : ReadItem.form.Returns i :=
  have members := and_returns (required_returns "node_id" (NodeId.form_returns i.node)) <|
    required_returns "attribute_id" (AttributeId.form_returns i.attributeId)
  via_returns (Record.form_returns members (by decide)) rfl

theorem WriteItem.form_returns {i : WriteItem} (plain : i.value.IsPlain) :
    WriteItem.form.Returns i :=
  have members := and_returns (required_returns "node_id" (NodeId.form_returns i.node)) <|
    and_returns (required_returns "attribute_id" (AttributeId.form_returns i.attributeId)) <|
    required_returns "value" (DataValue.form_returns plain)
  via_returns (Record.form_returns members (by decide)) rfl

/-- Whether the value for a new node, if there is one, is plain. -/
def NodeAttributes.IsPlain (a : NodeAttributes) : Prop := ∀ v ∈ a.value, v.IsPlain

theorem NodeAttributes.form_returns {a : NodeAttributes} (plain : a.IsPlain) :
    NodeAttributes.form.Returns a :=
  have value : Variant.form.optional.Returns a.value :=
    Form.optional_returns (fun v present => Variant.form_returns (plain v present))
      fun v _ => v.write_ne_null
  have dataType : NodeId.form.optional.Returns a.dataType :=
    Form.optional_returns (fun id _ => NodeId.form_returns id) fun _ _ => nofun
  have rank : int32.optional.Returns a.valueRank :=
    Form.optional_returns (fun n _ => int32_returns n) fun _ _ => nofun
  have notifier : uint8.optional.Returns a.eventNotifier :=
    Form.optional_returns (fun n _ => uint8_returns n) fun _ _ => nofun
  have members := and_returns
      (required_returns "display_name" (LocalizedText.form_returns a.displayName)) <|
    and_returns (required_returns "description" (LocalizedText.form_returns a.description)) <|
    and_returns (Record.optional_returns "value" value) <|
    and_returns (Record.optional_returns "data_type" dataType) <|
    and_returns (Record.optional_returns "value_rank" rank) <|
    Record.optional_returns "event_notifier" notifier
  via_returns (Record.form_returns members (by decide)) rfl

theorem AddNodeItem.form_returns {i : AddNodeItem} (plain : i.attributes.IsPlain) :
    AddNodeItem.form.Returns i :=
  have members := and_returns (required_returns "parent_node_id" (NodeId.form_returns i.parent)) <|
    and_returns (required_returns "reference_type_id" (NodeId.form_returns i.referenceType)) <|
    and_returns (required_returns "requested_new_node_id" (NodeId.form_returns i.requestedId)) <|
    and_returns (required_returns "browse_name" (QualifiedName.form_returns i.browseName)) <|
    and_returns (required_returns "node_class" (NodeClass.form_returns i.nodeClass)) <|
    and_returns (required_returns "attributes" (NodeAttributes.form_returns plain)) <|
    required_returns "type_definition" (NodeId.form_returns i.typeDefinition)
  via_returns (Record.form_returns members (by decide)) rfl

theorem AddNodeResult.form_returns (r : AddNodeResult) : AddNodeResult.form.Returns r :=
  have members := and_returns (required_returns "status_code" (StatusCode.form_returns r.status)) <|
    required_returns "added_node_id" (NodeId.form_returns r.addedId)
  via_returns (Record.form_returns members (by decide)) rfl

theorem AddReferenceItem.form_returns (i : AddReferenceItem) : AddReferenceItem.form.Returns i :=
  have targetClass : NodeClass.form.optional.Returns i.targetClass :=
    Form.optional_returns (fun c _ => NodeClass.form_returns c) fun _ _ => nofun
  have members := and_returns (required_returns "source_node_id" (NodeId.form_returns i.source)) <|
    and_returns (required_returns "reference_type_id" (NodeId.form_returns i.referenceType)) <|
    and_returns (required_returns "is_forward" (bool_returns i.isForward)) <|
    and_returns (required_returns "target_node_id" (NodeId.form_returns i.target)) <|
    Record.optional_returns "target_node_class" targetClass
  via_returns (Record.form_returns members (by decide)) rfl

theorem DeleteNodeItem.form_returns (i : DeleteNodeItem) : DeleteNodeItem.form.Returns i :=
  have members := and_returns (required_returns "node_id" (NodeId.form_returns i.node)) <|
    required_returns "delete_target_references" (bool_returns i.deleteTargetReferences)
  via_returns (Record.form_returns members (by decide)) rfl

theorem DeleteReferenceItem.form_returns (i : DeleteReferenceItem) :
    DeleteReferenceItem.form.Returns i :=
  have members := and_returns (required_returns "source_node_id" (NodeId.form_returns i.source)) <|
    and_returns (required_returns "reference_type_id" (NodeId.form_returns i.referenceType)) <|
    and_returns (required_returns "is_forward" (bool_returns i.isForward)) <|
    and_returns (required_returns "target_node_id" (NodeId.form_returns i.target)) <|
    required_returns "delete_bidirectional" (bool_returns i.deleteBidirectional)
  via_returns (Record.form_returns members (by decide)) rfl

namespace Service

/-- Whether the values in an item are plain. -/
def IsPlainItem : (s : Service) → s.Item → Prop
  | write, i => i.value.IsPlain
  | addNodes, i => i.attributes.IsPlain
  | read, _ | addReferences, _ | deleteNodes, _ | deleteReferences, _ => True

/-- Whether the value in a result is plain. -/
def IsPlainResult : (s : Service) → s.Result → Prop
  | read, v => v.IsPlain
  | write, _ | addNodes, _ | addReferences, _ | deleteNodes, _ | deleteReferences, _ => True

theorem itemForm_returns (s : Service) (i : s.Item) (plain : s.IsPlainItem i) :
    s.itemForm.Returns i := by
  cases s with
  | read => exact ReadItem.form_returns i
  | write => exact WriteItem.form_returns plain
  | addNodes => exact AddNodeItem.form_returns plain
  | addReferences => exact AddReferenceItem.form_returns i
  | deleteNodes => exact DeleteNodeItem.form_returns i
  | deleteReferences => exact DeleteReferenceItem.form_returns i

theorem resultForm_returns (s : Service) (r : s.Result) (plain : s.IsPlainResult r) :
    s.resultForm.Returns r := by
  cases s with
  | read => exact DataValue.form_returns plain
  | addNodes => exact AddNodeResult.form_returns r
  | write | addReferences | deleteNodes | deleteReferences => exact StatusCode.form_returns r

theorem ageRecord_returns {s : Service} (other : s ≠ read) (age : s.Age) :
    s.ageRecord.Returns age := by
  cases s with
  | read => exact absurd rfl other
  | write | addNodes | addReferences | deleteNodes | deleteReferences => exact Record.none_returns

end Service

/-! ### Messages -/

/-- Whether a request holds no floating-point number, and only common points in time. -/
structure Request.IsPlain {s : Service} (r : Request s) : Prop where
  time : r.header.timestamp.IsCommon
  items : ∀ i ∈ r.items, s.IsPlainItem i

structure Response.IsPlain {s : Service} (r : Response s) : Prop where
  time : r.header.timestamp.IsCommon
  results : ∀ x ∈ r.results, s.IsPlainResult x

theorem Request.form_returns {s : Service} {r : Request s} (other : s ≠ .read) (plain : r.IsPlain) :
    (Request.form s).Returns r :=
  have items := list_returns fun i member => s.itemForm_returns i (plain.items i member)
  have members := and_returns (required_returns "header" (RequestHeader.form_returns plain.time)) <|
    and_returns (s.ageRecord_returns other r.maxAge) <|
    required_returns s.itemsName items
  via_returns (Record.form_returns members (by cases s <;> decide)) rfl

theorem Response.form_returns {s : Service} {r : Response s} (plain : r.IsPlain) :
    (Response.form s).Returns r :=
  have results := list_returns fun x member => s.resultForm_returns x (plain.results x member)
  have members := and_returns
      (required_returns "header" (ResponseHeader.form_returns plain.time)) <|
    required_returns "results" results
  via_returns (Record.form_returns members (show ["header", "results"].Nodup by decide)) rfl

/-! ### Levels of messages -/

theorem AddNodeResult.isWithin (r : AddNodeResult) (levels : Nat) :
    (AddNodeResult.form.write r).isWithin (levels + 3) := by
  simp [AddNodeResult.form]

theorem AddReferenceItem.isWithin (i : AddReferenceItem) (levels : Nat) :
    (AddReferenceItem.form.write i).isWithin (levels + 3) := by
  have targetClass : (NodeClass.form.optional.write i.targetClass).isWithin (levels + 2) := by
    cases i.targetClass <;> simp [NodeClass.form]
  simp [AddReferenceItem.form, targetClass]

theorem DeleteNodeItem.isWithin (i : DeleteNodeItem) (levels : Nat) :
    (DeleteNodeItem.form.write i).isWithin (levels + 3) := by
  simp [DeleteNodeItem.form]

theorem DeleteReferenceItem.isWithin (i : DeleteReferenceItem) (levels : Nat) :
    (DeleteReferenceItem.form.write i).isWithin (levels + 3) := by
  simp [DeleteReferenceItem.form]

theorem Service.isWithin_item {s : Service} (flat : s ∉ [.read, .write, .addNodes]) (i : s.Item)
    (levels : Nat) : (s.itemForm.write i).isWithin (levels + 3) := by
  cases s with
  | read | write | addNodes => simp at flat
  | addReferences => exact AddReferenceItem.isWithin i levels
  | deleteNodes => exact DeleteNodeItem.isWithin i levels
  | deleteReferences => exact DeleteReferenceItem.isWithin i levels

theorem Service.isWithin_result {s : Service} (flat : s ≠ .read) (r : s.Result) (levels : Nat) :
    (s.resultForm.write r).isWithin (levels + 3) := by
  cases s with
  | read => exact absurd rfl flat
  | addNodes => exact AddNodeResult.isWithin r levels
  | write | addReferences | deleteNodes | deleteReferences => exact StatusCode.isWithin r _

theorem Request.fits {s : Service} (flat : s ∉ [.read, .write, .addNodes]) (r : Request s) :
    (Request.form s).Fits r := by
  have age : s.ageRecord.write r.maxAge = [] := by
    cases s with
    | read => simp at flat
    | write | addNodes | addReferences | deleteNodes | deleteReferences => rfl
  simp [Fits, levelLimit, Request.form, age, Service.isWithin_item flat]

theorem Response.fits {s : Service} (flat : s ≠ .read) (r : Response s) :
    (Response.form s).Fits r := by
  simp [Fits, levelLimit, Response.form, Service.isWithin_result flat]

/-! ### Survival -/

/-- All kinds of characters, and the first and the last second of the years of four digits. -/
def DataValue.sample : DataValue where
  value := .array [.string "\"/\\\n\x01é𝄞", .dateTime ⟨-62135596800, 120000⟩, .empty]
  sourceTimestamp := some ⟨253402300799, 999999999⟩

theorem DataValue.sample_isPlain : sample.IsPlain := by
  have first : Timestamp.IsCommon ⟨-62135596800, 120000⟩ := ⟨by decide, by decide, by decide⟩
  have last : Timestamp.IsCommon ⟨253402300799, 999999999⟩ := ⟨by decide, by decide, by decide⟩
  refine ⟨?_, by simp [sample, last], by simp [sample]⟩
  simp [sample, Variant.IsPlain, first]

@[simp] theorem DataValue.sample_isWithin (levels : Nat) :
    (DataValue.form.write .sample).isWithin (levels + 4) := by
  simp [DataValue.form, sample, Variant.form, Variant.toJson, Variant.tagged, Timestamp.form]

def AddNodeItem.sample : AddNodeItem :=
  (AddNodeItem.ofKind .variable .objectsFolder .null "x").withValue .empty

theorem AddNodeItem.sample_isPlain : sample.attributes.IsPlain := by
  rintro v ⟨⟩
  simp [Variant.IsPlain]

theorem AddNodeItem.sample_isWithin (levels : Nat) :
    (AddNodeItem.form.write .sample).isWithin (levels + 3) := by
  simp [AddNodeItem.form, NodeAttributes.form, sample, AddNodeItem.ofKind, AddNodeItem.named,
    withValue, Variant.form, Variant.toJson, NodeClass.form]

/-- Values and messages are what their texts are read as: those that can be nested exactly if a
reader may enter all their levels, and all others at any rate. Floating-point numbers are left out,
and points in time beyond the years of four digits. -/
theorem values_survive_their_text :
    (∀ id, NodeId.form.Survives id) ∧
    (∀ q, QualifiedName.form.Survives q) ∧
    (∀ t, LocalizedText.form.Survives t) ∧
    (∀ v : Variant, v.IsPlain → (Variant.form.Survives v ↔ Variant.form.Fits v)) ∧
    (∀ v : DataValue, v.IsPlain → (DataValue.form.Survives v ↔ DataValue.form.Fits v)) ∧
    (∀ i : AddNodeItem, i.attributes.IsPlain →
      (AddNodeItem.form.Survives i ↔ AddNodeItem.form.Fits i)) ∧
    (∀ r, AddNodeResult.form.Survives r) ∧
    (∀ h : RequestHeader, h.timestamp.IsCommon → RequestHeader.form.Survives h) ∧
    (∀ h : ResponseHeader, h.timestamp.IsCommon → ResponseHeader.form.Survives h) ∧
    (∀ (s : Service) (r : Request s), s ≠ .read → r.IsPlain →
      ((Request.form s).Survives r ↔ (Request.form s).Fits r) ∧
      (s ∉ [.write, .addNodes] → (Request.form s).Fits r)) ∧
    (∀ (s : Service) (r : Response s), r.IsPlain →
      ((Response.form s).Survives r ↔ (Response.form s).Fits r) ∧
      (s ≠ .read → (Response.form s).Fits r)) := by
  refine ⟨fun id => ?_, fun q => ?_, fun t => ?_, fun v plain => ?_, fun v plain => ?_,
    fun i plain => ?_, fun r => ?_, fun h common => ?_, fun h common => ?_,
    fun s r other plain => ⟨?_, fun flat => ?_⟩, fun s r plain => ⟨?_, fun flat => ?_⟩⟩
  · exact (NodeId.form_returns id).survives_iff.mpr (id.isWithin 125)
  · exact (QualifiedName.form_returns q).survives_iff.mpr (q.isWithin 126)
  · exact (LocalizedText.form_returns t).survives_iff.mpr (t.isWithin 126)
  · exact (Variant.form_returns plain).survives_iff
  · exact (DataValue.form_returns plain).survives_iff
  · exact (AddNodeItem.form_returns plain).survives_iff
  · exact (AddNodeResult.form_returns r).survives_iff.mpr (r.isWithin 124)
  · exact (RequestHeader.form_returns common).survives_iff.mpr (h.isWithin 126)
  · exact (ResponseHeader.form_returns common).survives_iff.mpr (h.isWithin 126)
  · exact (Request.form_returns other plain).survives_iff
  · exact Request.fits (by simp_all) r
  · exact (Response.form_returns plain).survives_iff
  · exact Response.fits flat r

theorem samples_survive :
    Variant.form.Survives (.nested 63) ∧ DataValue.form.Survives .sample ∧
    AddNodeItem.form.Survives .sample ∧ RequestHeader.form.Survives {} ∧
    ResponseHeader.form.Survives {} ∧
    (Request.form .write).Survives { items := [{ value := .sample }] } ∧
    (Request.form .deleteNodes).Survives { items := [{}] } ∧
    (Response.form .read).Survives { results := [.sample] } := by
  have epoch : Timestamp.epoch.IsCommon := ⟨by decide, by decide, by decide⟩
  have nestedFits : Variant.form.Fits (.nested 63) :=
    (Variant.isWithin_nested 63 levelLimit).mpr (by decide)
  have writeFits : (Request.form .write).Fits { items := [{ value := .sample }] } := by
    simp [Fits, levelLimit, Request.form, Service.ageRecord, Service.itemForm, WriteItem.form,
      AttributeId.form]
  have readFits : (Response.form .read).Fits { results := [.sample] } := by
    simp [Fits, levelLimit, Response.form, Service.resultForm]
  obtain ⟨-, -, -, variants, values, items, -, requestHeaders, responseHeaders, requests,
    responses⟩ := values_survive_their_text
  have write := requests .write { items := [{ value := .sample }] } (by decide)
    ⟨epoch, by simpa [Service.IsPlainItem] using DataValue.sample_isPlain⟩
  have delete := requests .deleteNodes { items := [{}] } (by decide)
    ⟨epoch, by simp [Service.IsPlainItem]⟩
  have read := responses .read { results := [.sample] }
    ⟨epoch, by simpa [Service.IsPlainResult] using DataValue.sample_isPlain⟩
  exact ⟨(variants _ (Variant.nested_isPlain 63)).mpr nestedFits,
    (values _ DataValue.sample_isPlain).mpr (DataValue.sample_isWithin 123),
    (items _ AddNodeItem.sample_isPlain).mpr (AddNodeItem.sample_isWithin 124),
    requestHeaders _ epoch, responseHeaders _ epoch, write.1.mpr writeFits,
    delete.1.mpr (delete.2 (by decide)), read.1.mpr readFits⟩

end OpcUa
