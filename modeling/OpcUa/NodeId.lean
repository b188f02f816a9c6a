import OpcUa.Text.Decimal

/-!
Node identifiers: a namespace and, in it, a number or a text.
-/

namespace OpcUa

inductive Identifier
  | numeric (value : UInt32)
  | text (value : String)
deriving DecidableEq, Repr, Hashable

/-- The display text: a letter for the kind, and the value. -/
def Identifier.display : Identifier → String
  | numeric value => "i=" ++ Text.Decimal.ofNat value.toNat
  | text value => "s=" ++ value

structure NodeId where
  namespaceIndex : UInt16
  identifier : Identifier
deriving DecidableEq, Repr, Hashable

namespace NodeId

def numeric (namespaceIndex : UInt16) (value : UInt32) : NodeId := ⟨namespaceIndex, .numeric value⟩

def standard (value : UInt32) : NodeId := numeric 0 value

def null : NodeId := standard 0

instance : Inhabited NodeId := ⟨null⟩

def rootFolder : NodeId := standard 84
def objectsFolder : NodeId := standard 85
def typesFolder : NodeId := standard 86
def viewsFolder : NodeId := standard 87
def baseObjectType : NodeId := standard 58
def folderType : NodeId := standard 61
def baseDataVariableType : NodeId := standard 63
def propertyType : NodeId := standard 68
def modellingRuleType : NodeId := standard 77
def references : NodeId := standard 31
def hierarchicalReferences : NodeId := standard 33
def organizes : NodeId := standard 35
def hasModellingRule : NodeId := standard 37
def hasTypeDefinition : NodeId := standard 40
def hasSubtype : NodeId := standard 45
def hasProperty : NodeId := standard 46
def hasComponent : NodeId := standard 47
def baseDataType : NodeId := standard 24

def isNumeric (id : NodeId) : Bool :=
  match id.identifier with
  | .numeric _ => true
  | .text _ => false

def isNull (id : NodeId) : Bool := id == null

/-- The display text: the namespace, unless it is zero, and the identifier in it. -/
def display (id : NodeId) : String :=
  (if id.namespaceIndex = 0 then ""
    else "ns=" ++ Text.Decimal.ofNat id.namespaceIndex.toNat ++ ";") ++ id.identifier.display

end NodeId

end OpcUa
