import OpcUa.Json.Values
import OpcUa.Service.Message

/-!
The JSON forms of what clients ask for and of what servers answer.
-/

namespace OpcUa

def Service.form : Form Service := .named Service.all Service.name

def connectionForm : Form Bool :=
  .named [false, true] fun isConnected => if isConnected then "connected" else "disconnected"

def RequestHeader.form : Form RequestHeader :=
  ((Record.required "request_handle" .uint32).and <|
    (Record.required "timestamp" Timestamp.form).and <|
    .required "timeout_hint" .uint32).form.via
    (fun h => (h.requestHandle, h.timestamp, h.timeoutHint))
    (fun (handle, time, hint) => some ⟨handle, time, hint⟩)

def ResponseHeader.form : Form ResponseHeader :=
  ((Record.required "request_handle" .uint32).and <|
    (Record.required "timestamp" Timestamp.form).and <|
    .required "service_result" StatusCode.form).form.via
    (fun h => (h.requestHandle, h.timestamp, h.serviceResult))
    (fun (handle, time, result) => some ⟨handle, time, result⟩)

def ReadItem.form : Form ReadItem :=
  ((Record.required "node_id" NodeId.form).and <|
    .required "attribute_id" AttributeId.form).form.via
    (fun i => (i.node, i.attributeId)) (fun (node, id) => some ⟨node, id⟩)

def WriteItem.form : Form WriteItem :=
  ((Record.required "node_id" NodeId.form).and <|
    (Record.required "attribute_id" AttributeId.form).and <|
    .required "value" DataValue.form).form.via
    (fun i => (i.node, i.attributeId, i.value))
    (fun (node, id, value) => some ⟨node, id, value⟩)

def NodeAttributes.form : Form NodeAttributes :=
  ((Record.required "display_name" LocalizedText.form).and <|
    (Record.required "description" LocalizedText.form).and <|
    (Record.optional "value" Variant.form).and <|
    (Record.optional "data_type" NodeId.form).and <|
    (Record.optional "value_rank" .int32).and <|
    .optional "event_notifier" .uint8).form.via
    (fun a => (a.displayName, a.description, a.value, a.dataType, a.valueRank, a.eventNotifier))
    (fun (name, description, value, dataType, rank, notifier) =>
      some ⟨name, description, value, dataType, rank, notifier⟩)

def AddNodeItem.form : Form AddNodeItem :=
  ((Record.required "parent_node_id" NodeId.form).and <|
    (Record.required "reference_type_id" NodeId.form).and <|
    (Record.required "requested_new_node_id" NodeId.form).and <|
    (Record.required "browse_name" QualifiedName.form).and <|
    (Record.required "node_class" NodeClass.form).and <|
    (Record.required "attributes" NodeAttributes.form).and <|
    .required "type_definition" NodeId.form).form.via
    (fun i => (i.parent, i.referenceType, i.requestedId, i.browseName, i.nodeClass, i.attributes,
      i.typeDefinition))
    (fun (parent, referenceType, id, name, nodeClass, attributes, typeDefinition) =>
      some ⟨parent, referenceType, id, name, nodeClass, attributes, typeDefinition⟩)

def AddNodeResult.form : Form AddNodeResult :=
  ((Record.required "status_code" StatusCode.form).and <|
    .required "added_node_id" NodeId.form).form.via
    (fun r => (r.status, r.addedId)) (fun (status, id) => some ⟨status, id⟩)

def AddReferenceItem.form : Form AddReferenceItem :=
  ((Record.required "source_node_id" NodeId.form).and <|
    (Record.required "reference_type_id" NodeId.form).and <|
    (Record.required "is_forward" .bool).and <|
    (Record.required "target_node_id" NodeId.form).and <|
    .optional "target_node_class" NodeClass.form).form.via
    (fun i => (i.source, i.referenceType, i.isForward, i.target, i.targetClass))
    (fun (source, referenceType, isForward, target, targetClass) =>
      some ⟨source, referenceType, isForward, target, targetClass⟩)

def DeleteNodeItem.form : Form DeleteNodeItem :=
  ((Record.required "node_id" NodeId.form).and <|
    .required "delete_target_references" .bool).form.via
    (fun i => (i.node, i.deleteTargetReferences)) (fun (node, targets) => some ⟨node, targets⟩)

def DeleteReferenceItem.form : Form DeleteReferenceItem :=
  ((Record.required "source_node_id" NodeId.form).and <|
    (Record.required "reference_type_id" NodeId.form).and <|
    (Record.required "is_forward" .bool).and <|
    (Record.required "target_node_id" NodeId.form).and <|
    .required "delete_bidirectional" .bool).form.via
    (fun i => (i.source, i.referenceType, i.isForward, i.target, i.deleteBidirectional))
    (fun (source, referenceType, isForward, target, both) =>
      some ⟨source, referenceType, isForward, target, both⟩)

namespace Service

def itemsName : Service → String
  | read => "nodes_to_read"
  | write => "nodes_to_write"
  | addNodes => "nodes_to_add"
  | addReferences => "references_to_add"
  | deleteNodes => "nodes_to_delete"
  | deleteReferences => "references_to_delete"

def itemForm : (s : Service) → Form s.Item
  | read => ReadItem.form
  | write => WriteItem.form
  | addNodes => AddNodeItem.form
  | addReferences => AddReferenceItem.form
  | deleteNodes => DeleteNodeItem.form
  | deleteReferences => DeleteReferenceItem.form

def resultForm : (s : Service) → Form s.Result
  | read => DataValue.form
  | addNodes => AddNodeResult.form
  | write | addReferences | deleteNodes | deleteReferences => StatusCode.form

/-- The age that a request allows; only reading asks for it. -/
def ageRecord : (s : Service) → Record s.Age
  | read => .required "max_age" .double
  | write | addNodes | addReferences | deleteNodes | deleteReferences => .none

end Service

def Request.form (s : Service) : Form (Request s) :=
  ((Record.required "header" RequestHeader.form).and <|
    s.ageRecord.and <|
    .required s.itemsName (.list s.itemForm)).form.via
    (fun r => (r.header, r.maxAge, r.items)) (fun (header, age, items) => some ⟨header, age, items⟩)

def Response.form (s : Service) : Form (Response s) :=
  ((Record.required "header" ResponseHeader.form).and <|
    .required "results" (.list s.resultForm)).form.via
    (fun r => (r.header, r.results)) (fun (header, results) => some ⟨header, results⟩)

end OpcUa
