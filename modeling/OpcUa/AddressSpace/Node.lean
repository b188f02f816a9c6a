import OpcUa.Service.Items

/-!
Nodes: what a new one starts with, and what its attributes hold.
-/

namespace OpcUa

/-- A node. Value, data type and value rank belong to variables and variable types, the event
notifier to objects and views. -/
structure Node where
  id : NodeId
  nodeClass : NodeClass
  browseName : QualifiedName
  displayName : LocalizedText
  description : LocalizedText := {}
  value : Option DataValue
  dataType : Option NodeId
  valueRank : Option Int32
  eventNotifier : Option UInt8
deriving Repr

namespace Node

def ofClass (id : NodeId) (nodeClass : NodeClass) (browseName : QualifiedName) : Node where
  id := id
  nodeClass := nodeClass
  browseName := browseName
  displayName := .plain browseName.name
  value := if nodeClass.hasValue then some {} else none
  dataType := if nodeClass.hasValue then some .baseDataType else none
  valueRank := if nodeClass.hasValue then some (-1) else none
  eventNotifier := if nodeClass.hasEventNotifier then some 0 else none

/-- The node with the attributes that a request gives; what is left out stays. -/
def withAttributes (n : Node) (a : NodeAttributes) (now : Timestamp) : Node :=
  { n with
    displayName := if a.displayName.text.isEmpty then n.displayName else a.displayName
    description := a.description
    value := (a.value.map fun v => (DataValue.ofVariant v).stamped now).or n.value
    dataType := a.dataType.or n.dataType
    valueRank := a.valueRank.or n.valueRank
    eventNotifier := a.eventNotifier.or n.eventNotifier }

/-- The access level of variables: they can be read and written. -/
def readWrite : UInt8 := 3

def orInvalid : Option Variant → Except StatusCode Variant
  | some v => .ok v
  | none => .error .badAttributeIdInvalid

def attribute? (n : Node) : AttributeId → Except StatusCode Variant
  | .nodeId => .ok (.nodeId n.id)
  | .nodeClass => .ok (.int32 n.nodeClass.mask.toInt32)
  | .browseName => .ok (.qualifiedName n.browseName)
  | .displayName => .ok (.localizedText n.displayName)
  | .description => .ok (.localizedText n.description)
  | .writeMask => .ok (.uint32 0)
  | .eventNotifier => orInvalid (n.eventNotifier.map .byte)
  | .value => orInvalid (n.value.map DataValue.value)
  | .dataType => orInvalid (n.dataType.map .nodeId)
  | .valueRank => orInvalid (n.valueRank.map .int32)
  | .accessLevel => orInvalid (if n.nodeClass = .variable then some (.byte readWrite) else none)

end Node

end OpcUa
