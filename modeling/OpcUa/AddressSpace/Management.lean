import OpcUa.AddressSpace.Basic

/-!
Adding and deleting nodes and references. Each operation answers with a status, and a bad status
leaves the address space as it was.
-/

namespace OpcUa.AddressSpace

/-! ### Nodes -/

/-- How a new node may hang below its parent: type nodes below a type of their own class, as
subtypes; all others in any way but as subtypes. -/
def checkParent (s : AddressSpace) (item : AddNodeItem) : Except StatusCode Unit :=
  if !item.nodeClass.isType then
    if item.referenceType = .hasSubtype then .error .badReferenceNotAllowed else .ok ()
  else if s.class? item.parent ≠ some item.nodeClass then .error .badParentNodeIdInvalid
  else if item.referenceType ≠ .hasSubtype then .error .badReferenceNotAllowed
  else .ok ()

/-- The class that the type of a node has to have; classes without types have none. -/
def typeClass? : NodeClass → Option NodeClass
  | .object => some .objectType
  | .variable | .variableType => some .variableType
  | .method | .objectType | .referenceType | .dataType | .view => none

def typeDefinitionFits (s : AddressSpace) (item : AddNodeItem) : Bool :=
  match typeClass? item.nodeClass with
  | some c => s.class? item.typeDefinition == some c
  | none => item.typeDefinition.isNull

def attributesFit (nodeClass : NodeClass) (a : NodeAttributes) : Bool :=
  (nodeClass.hasValue || !(a.value.isSome || a.dataType.isSome || a.valueRank.isSome)) &&
    (nodeClass.hasEventNotifier || !a.eventNotifier.isSome)

def require (met : Bool) (status : StatusCode) : Except StatusCode Unit :=
  if met then .ok () else .error status

/-- Checks a new node: its parent, the reference from it, the requested identifier, the name, the
type and the attributes. The first condition that is not met gives the status. -/
def checkNewNode (s : AddressSpace) (item : AddNodeItem) : Except StatusCode Unit := do
  require (s.contains item.parent) .badParentNodeIdInvalid
  require (s.isReferenceType item.referenceType) .badReferenceTypeIdInvalid
  s.checkParent item
  require (item.requestedId.isNull || !s.contains item.requestedId) .badNodeIdExists
  require (!item.browseName.isNull) .badBrowseNameInvalid
  require (s.typeDefinitionFits item) .badTypeDefinitionInvalid
  require (attributesFit item.nodeClass item.attributes) .badNodeAttributesInvalid

def candidate (n : UInt32) : NodeId := .numeric assignedNamespace n

/-- How far from the counter the first number lies whose identifier is free. One more number than
there are nodes is tried, so the search fails only if all numbers are taken. -/
def freeOffset? (s : AddressSpace) : Option Nat :=
  (List.range (min (s.nodeCount + 1) UInt32.size)).find? fun k =>
    !s.contains (candidate (s.nextId + UInt32.ofNat k))

/-- The identifier of a new node, and the counter after it: the requested one, or the first free
one from the counter on. Where every number is taken such a search would never end; the status
`badTooManyOperations` stands for that. -/
def assignId (s : AddressSpace) (requested : NodeId) : Except StatusCode (NodeId × UInt32) :=
  if !requested.isNull then .ok (requested, s.nextId)
  else
    match s.freeOffset? with
    | some k =>
      let n := s.nextId + UInt32.ofNat k
      .ok (candidate n, n + 1)
    | none => .error .badTooManyOperations

/-- Puts a new node into the table, hangs it below its parent, and links it to its type. -/
def attach (s : AddressSpace) (now : Timestamp) (item : AddNodeItem) (id : NodeId) :
    AddressSpace :=
  let node := Node.ofClass id item.nodeClass item.browseName
  let space := s.putNode id (node.withAttributes item.attributes now)
  let space := space.link item.parent item.referenceType id
  if item.typeDefinition.isNull then space
  else space.link id .hasTypeDefinition item.typeDefinition

def addNode (s : AddressSpace) (now : Timestamp) (item : AddNodeItem) :
    AddNodeResult × AddressSpace :=
  match s.checkNewNode item with
  | .error status => (⟨status, .null⟩, s)
  | .ok () =>
    match s.assignId item.requestedId with
    | .error status => (⟨status, .null⟩, s)
    | .ok (id, nextId) => (⟨.good, id⟩, { s with nextId := nextId }.attach now item id)

/-- Deletes a node and the references that leave it. Those that point at it go only if the item
says so; if some stay, the status tells it. -/
def deleteNode (s : AddressSpace) (item : DeleteNodeItem) : StatusCode × AddressSpace :=
  if !s.contains item.node then (.badNodeIdUnknown, s)
  else
    let kept := s.references.filter (·.source != item.node)
    let space := { s with table := s.table.erase item.node, references := kept }
    if item.deleteTargetReferences then
      (.good, { space with references := kept.filter (·.target != item.node) })
    else if kept.any (·.target == item.node) then (.uncertainReferenceNotDeleted, space)
    else (.good, space)

/-! ### References -/

def addReference (s : AddressSpace) (item : AddReferenceItem) : StatusCode × AddressSpace :=
  if !s.contains item.source then (.badSourceNodeIdInvalid, s)
  else if !s.isReferenceType item.referenceType then (.badReferenceTypeIdInvalid, s)
  else
    match s.class? item.target with
    | none => (.badTargetNodeIdInvalid, s)
    | some targetClass =>
      if (item.targetClass.getD targetClass) ≠ targetClass then (.badNodeClassInvalid, s)
      else if s.references.contains item.reference then (.badDuplicateReferenceNotAllowed, s)
      else (.good, { s with references := s.references ++ [item.reference] })

/-- Deletes every copy of a reference; if the references are no fewer afterwards, there was none.
Both directions of a reference are one record, so the flag for both directions makes no
difference. -/
def deleteReference (s : AddressSpace) (item : DeleteReferenceItem) : StatusCode × AddressSpace :=
  let space := { s with references := s.references.filter (· != item.reference) }
  if space.referenceCount = s.referenceCount then (.badNotFound, space) else (.good, space)

end OpcUa.AddressSpace
