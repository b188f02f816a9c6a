import OpcUa.AddressSpace.NodeTable

/-!
Address spaces: nodes, the references between them, and the counter from which new identifiers
come. References are kept in their forward direction only; an inverse reference is the same
record seen from its target.
-/

namespace OpcUa

structure Reference where
  source : NodeId
  referenceType : NodeId
  target : NodeId
deriving DecidableEq, Repr

def Reference.oriented (source referenceType target : NodeId) (isForward : Bool) : Reference :=
  if isForward then ⟨source, referenceType, target⟩ else ⟨target, referenceType, source⟩

def AddReferenceItem.reference (item : AddReferenceItem) : Reference :=
  .oriented item.source item.referenceType item.target item.isForward

def DeleteReferenceItem.reference (item : DeleteReferenceItem) : Reference :=
  .oriented item.source item.referenceType item.target item.isForward

/-- Nodes, references in the order in which they came, and the number from which the search for
a new identifier starts. -/
structure AddressSpace where
  table : NodeTable
  references : List Reference
  nextId : UInt32

namespace AddressSpace

def assignedNamespace : UInt16 := 1

def firstAssigned : UInt32 := 50000

def empty : AddressSpace := ⟨.empty, [], firstAssigned⟩

def nodeCount (s : AddressSpace) : Nat := s.table.size

def referenceCount (s : AddressSpace) : Nat := s.references.length

def node? (s : AddressSpace) (id : NodeId) : Option Node := s.table.find? id

def contains (s : AddressSpace) (id : NodeId) : Bool := s.table.contains id

def class? (s : AddressSpace) (id : NodeId) : Option NodeClass := (s.node? id).map Node.nodeClass

def isReferenceType (s : AddressSpace) (id : NodeId) : Bool := s.class? id == some .referenceType

def hasReference (s : AddressSpace) (source referenceType target : NodeId) : Bool :=
  s.references.contains ⟨source, referenceType, target⟩

def referencesFrom (s : AddressSpace) (source : NodeId) : List Reference :=
  s.references.filter (·.source == source)

def link (s : AddressSpace) (source referenceType target : NodeId) : AddressSpace :=
  { s with references := s.references ++ [⟨source, referenceType, target⟩] }

def putNode (s : AddressSpace) (id : NodeId) (n : Node) : AddressSpace :=
  { s with table := s.table.insert id n }

def insertVariable (s : AddressSpace) (parent id : NodeId) (name : String) (value : Variant)
    (now : Timestamp) : AddressSpace :=
  let node := Node.ofClass id .variable ⟨id.namespaceIndex, name⟩
  let space := s.putNode id { node with value := some ((DataValue.ofVariant value).stamped now) }
  (space.link parent .hasComponent id).link id .hasTypeDefinition .baseDataVariableType

/-! ### What the parts of an operation do -/

variable {s : AddressSpace} {id key : NodeId} {n : Node}

theorem contains_iff : s.contains id ↔ ∃ n, s.node? id = some n := Option.isSome_iff_exists

theorem contains_of_class? {c : NodeClass} (h : s.class? id = some c) : s.contains id := by
  obtain ⟨n, found, -⟩ := Option.map_eq_some_iff.mp h
  exact contains_iff.mpr ⟨n, found⟩

@[simp] theorem node?_putNode :
    (s.putNode id n).node? key = if id = key then some n else s.node? key :=
  NodeTable.find?_insert ..

theorem contains_putNode : (s.putNode id n).contains key ↔ id = key ∨ s.contains key := by
  rw [contains_iff, node?_putNode, contains_iff]
  by_cases same : id = key <;> simp [same]

@[simp] theorem references_putNode : (s.putNode id n).references = s.references := rfl

theorem putNode_self (h : s.node? id = some n) : s.putNode id n = s := by
  rw [putNode, NodeTable.insert_self h]

theorem putNode_putNode {m : Node} : (s.putNode id m).putNode id n = s.putNode id n := by
  simp only [putNode, NodeTable.insert_insert]

@[simp] theorem node?_link {a t b : NodeId} : (s.link a t b).node? key = s.node? key := rfl

@[simp] theorem references_link {a t b : NodeId} :
    (s.link a t b).references = s.references ++ [⟨a, t, b⟩] := rfl

end AddressSpace

end OpcUa
