import OpcUa.Client.Script

/-!
Operations on the server, as calls: the whole response is delivered for a batch, the only result of
it for a single item.
-/

namespace OpcUa.Client

namespace Call

def mapTransform {ρ α β : Type} (f : α → β) (t : Transform ρ α) : Transform ρ β := fun r =>
  match t r with
  | (.ok a, rest) => (.ok (f a), rest)
  | (.error e, rest) => (.error e, rest)

/-- A batch of items; it delivers the whole response. -/
def batch {s : Service} (request : Request s) : Call where
  service := s
  request := request
  transform := mapTransform (fun r => .response ⟨s, r⟩) Response.wrap
  fallback := .response ⟨s, {}⟩

/-- A single item; it delivers a view of the result, and fails if the result's status is bad. -/
def single (s : Service) (item : s.Item) (view : s.Result → Payload) (fallback : Payload) :
    Call where
  service := s
  request := { items := [item] }
  transform := mapTransform view Response.checked
  fallback := fallback

def readAttribute (node : NodeId) (attributeId : AttributeId) : Call :=
  single .read ⟨node, attributeId⟩ .value (.value {})

def readValue (node : NodeId) : Call :=
  single .read ⟨node, .value⟩ (fun v => .variant v.value) (.variant .empty)

def writeAttribute (node : NodeId) (attributeId : AttributeId) (value : DataValue) : Call :=
  single .write ⟨node, attributeId, value⟩ (fun _ => .nothing) .nothing

def writeValue (node : NodeId) (value : Variant) : Call :=
  writeAttribute node .value (.ofVariant value)

def addNode (item : AddNodeItem) : Call :=
  single .addNodes item (fun r => .nodeId r.addedId) (.nodeId .null)

def addKind (kind : NodeKind) (parent id : NodeId) (name : String) (attributes : NodeAttributes) :
    Call :=
  addNode ((AddNodeItem.ofKind kind parent id name).withAttributes attributes)

def addReference (source target referenceType : NodeId) (isForward : Bool) : Call :=
  single .addReferences (.between source target referenceType isForward) (fun _ => .nothing)
    .nothing

def addModellingRule (node : NodeId) (rule : ModellingRule) : Call :=
  single .addReferences (.forRule node rule) (fun _ => .nothing) .nothing

def deleteNode (node : NodeId) (deleteTargetReferences : Bool) : Call :=
  single .deleteNodes ⟨node, deleteTargetReferences⟩ (fun _ => .nothing) .nothing

def deleteReference (item : DeleteReferenceItem) : Call :=
  single .deleteReferences item (fun _ => .nothing) .nothing

def countResults (items : List ReadItem) (verdict : Except Failure Unit) : Call where
  service := .read
  request := { items := items }
  transform := fun r =>
    match verdict with
    | .ok () => (.ok (.count r.results.length), r)
    | .error e => (.error e, r)
  fallback := .count 0

end Call

end OpcUa.Client
