import OpcUa.DataValue
import OpcUa.NodeClass

/-!
What clients ask for: one item of each of the six services, and the constructors for new nodes
of the usual kinds.
-/

namespace OpcUa

structure ReadItem where
  node : NodeId := .null
  attributeId : AttributeId := .value
deriving DecidableEq, Repr, Inhabited

structure WriteItem where
  node : NodeId := .null
  attributeId : AttributeId := .value
  value : DataValue := {}
deriving BEq, Repr, Inhabited

/-- The attributes that a new node shall have. An empty display name stands for the browse name;
what is left out takes the default of the node's class. -/
structure NodeAttributes where
  displayName : LocalizedText := {}
  description : LocalizedText := {}
  value : Option Variant := none
  dataType : Option NodeId := none
  valueRank : Option Int32 := none
  eventNotifier : Option UInt8 := none
deriving BEq, Repr, Inhabited

/-- A node to add below a parent. A null identifier asks the server to choose one. -/
structure AddNodeItem where
  parent : NodeId
  referenceType : NodeId
  requestedId : NodeId
  browseName : QualifiedName
  nodeClass : NodeClass
  attributes : NodeAttributes := {}
  typeDefinition : NodeId
deriving BEq, Repr

/-- A reference to add between two nodes. A class that is given has to be the target's. -/
structure AddReferenceItem where
  source : NodeId
  referenceType : NodeId
  isForward : Bool
  target : NodeId
  targetClass : Option NodeClass := none
deriving DecidableEq, Repr

structure DeleteNodeItem where
  node : NodeId := .null
  deleteTargetReferences : Bool := false
deriving DecidableEq, Repr, Inhabited

structure DeleteReferenceItem where
  source : NodeId
  referenceType : NodeId
  isForward : Bool
  target : NodeId
  deleteBidirectional : Bool
deriving DecidableEq, Repr

/-- The outcome of adding a node: its status, and the identifier that the node got. -/
structure AddNodeResult where
  status : StatusCode := .good
  addedId : NodeId := .null
deriving DecidableEq, Repr, Inhabited

namespace AddNodeItem

def named (nodeClass : NodeClass) (parent id : NodeId) (name : String)
    (typeDefinition referenceType : NodeId) : AddNodeItem where
  parent := parent
  referenceType := referenceType
  requestedId := id
  browseName := ⟨id.namespaceIndex, name⟩
  nodeClass := nodeClass
  typeDefinition := typeDefinition

def withAttributes (item : AddNodeItem) (attributes : NodeAttributes) : AddNodeItem :=
  { item with attributes := attributes }

def withDisplayName (item : AddNodeItem) (text : String) : AddNodeItem :=
  { item with attributes := { item.attributes with displayName := .plain text } }

def withDescription (item : AddNodeItem) (text : String) : AddNodeItem :=
  { item with attributes := { item.attributes with description := .plain text } }

def withValue (item : AddNodeItem) (value : Variant) : AddNodeItem :=
  { item with attributes := { item.attributes with value := some value } }

def withDataType (item : AddNodeItem) (dataType : NodeId) : AddNodeItem :=
  { item with attributes := { item.attributes with dataType := some dataType } }

def withTypeDefinition (item : AddNodeItem) (typeDefinition : NodeId) : AddNodeItem :=
  { item with typeDefinition := typeDefinition }

def withReferenceType (item : AddNodeItem) (referenceType : NodeId) : AddNodeItem :=
  { item with referenceType := referenceType }

end AddNodeItem

inductive NodeKind
  | object
  | folder
  | variable
  | property
  | objectType
  | variableType
  | referenceType
  | dataType
  | view
  | method
deriving DecidableEq, Repr

namespace NodeKind

def all : List NodeKind :=
  [.object, .folder, .variable, .property, .objectType, .variableType, .referenceType, .dataType,
    .view, .method]

def name : NodeKind → String
  | .object => "object"
  | .folder => "folder"
  | .variable => "variable"
  | .property => "property"
  | .objectType => "object_type"
  | .variableType => "variable_type"
  | .referenceType => "reference_type"
  | .dataType => "data_type"
  | .view => "view"
  | .method => "method"

def nodeClass : NodeKind → NodeClass
  | .object | .folder => .object
  | .variable | .property => .variable
  | .objectType => .objectType
  | .variableType => .variableType
  | .referenceType => .referenceType
  | .dataType => .dataType
  | .view => .view
  | .method => .method

/-- The type of the node; kinds without a type have the null identifier. -/
def typeDefinition : NodeKind → NodeId
  | .object => .baseObjectType
  | .folder => .folderType
  | .variable | .variableType => .baseDataVariableType
  | .property => .propertyType
  | .objectType | .referenceType | .dataType | .view | .method => .null

def parentReference : NodeKind → NodeId
  | .object | .variable | .method => .hasComponent
  | .folder | .view => .organizes
  | .property => .hasProperty
  | .objectType | .variableType | .referenceType | .dataType => .hasSubtype

end NodeKind

def AddNodeItem.ofKind (kind : NodeKind) (parent id : NodeId) (name : String) : AddNodeItem :=
  .named kind.nodeClass parent id name kind.typeDefinition kind.parentReference

def AddReferenceItem.between (source target referenceType : NodeId) (isForward : Bool) :
    AddReferenceItem where
  source := source
  referenceType := referenceType
  isForward := isForward
  target := target

def AddReferenceItem.forRule (node : NodeId) (rule : ModellingRule) : AddReferenceItem where
  source := node
  referenceType := .hasModellingRule
  isForward := true
  target := rule.nodeId
  targetClass := some .object

end OpcUa
