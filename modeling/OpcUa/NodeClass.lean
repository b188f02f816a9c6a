import OpcUa.NodeId

/-!
What kinds of nodes there are, which attributes they may carry, and the standard modelling rules.
-/

namespace OpcUa

inductive NodeClass
  | object
  | variable
  | method
  | objectType
  | variableType
  | referenceType
  | dataType
  | view
deriving DecidableEq, Repr, Inhabited

namespace NodeClass

def all : List NodeClass :=
  [.object, .variable, .method, .objectType, .variableType, .referenceType, .dataType, .view]

def mask : NodeClass → UInt32
  | .object => 1
  | .variable => 2
  | .method => 4
  | .objectType => 8
  | .variableType => 16
  | .referenceType => 32
  | .dataType => 64
  | .view => 128

def name : NodeClass → String
  | .object => "object"
  | .variable => "variable"
  | .method => "method"
  | .objectType => "object_type"
  | .variableType => "variable_type"
  | .referenceType => "reference_type"
  | .dataType => "data_type"
  | .view => "view"

def hasValue (c : NodeClass) : Bool := c == .variable || c == .variableType

def hasEventNotifier (c : NodeClass) : Bool := c == object || c == view

def isType (c : NodeClass) : Bool :=
  c == objectType || c == variableType || c == referenceType || c == dataType

end NodeClass

inductive AttributeId
  | nodeId
  | nodeClass
  | browseName
  | displayName
  | description
  | writeMask
  | eventNotifier
  | value
  | dataType
  | valueRank
  | accessLevel
deriving DecidableEq, Repr

namespace AttributeId

instance : Inhabited AttributeId := ⟨value⟩

def all : List AttributeId :=
  [nodeId, nodeClass, browseName, displayName, description, writeMask, eventNotifier, value,
    dataType, valueRank, accessLevel]

def number : AttributeId → Nat
  | nodeId => 1
  | nodeClass => 2
  | browseName => 3
  | displayName => 4
  | description => 5
  | writeMask => 6
  | eventNotifier => 12
  | value => 13
  | dataType => 14
  | valueRank => 15
  | accessLevel => 17

def name : AttributeId → String
  | nodeId => "node_id"
  | nodeClass => "node_class"
  | browseName => "browse_name"
  | displayName => "display_name"
  | description => "description"
  | writeMask => "write_mask"
  | eventNotifier => "event_notifier"
  | value => "value"
  | dataType => "data_type"
  | valueRank => "value_rank"
  | accessLevel => "access_level"

end AttributeId

inductive ModellingRule
  | mandatory
  | optional
  | exposesItsArray
  | optionalPlaceholder
  | mandatoryPlaceholder
deriving DecidableEq, Repr

namespace ModellingRule

def all : List ModellingRule :=
  [mandatory, optional, exposesItsArray, optionalPlaceholder, mandatoryPlaceholder]

def nodeId : ModellingRule → NodeId
  | mandatory => .standard 78
  | optional => .standard 80
  | exposesItsArray => .standard 83
  | optionalPlaceholder => .standard 11508
  | mandatoryPlaceholder => .standard 11510

def browseName : ModellingRule → String
  | mandatory => "Mandatory"
  | optional => "Optional"
  | exposesItsArray => "ExposesItsArray"
  | optionalPlaceholder => "OptionalPlaceholder"
  | mandatoryPlaceholder => "MandatoryPlaceholder"

def name : ModellingRule → String
  | mandatory => "mandatory"
  | optional => "optional"
  | exposesItsArray => "exposes_its_array"
  | optionalPlaceholder => "optional_placeholder"
  | mandatoryPlaceholder => "mandatory_placeholder"

end ModellingRule

end OpcUa
