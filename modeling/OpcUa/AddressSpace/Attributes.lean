import OpcUa.AddressSpace.Basic

/-!
Reading and writing attributes. Every attribute can be read; only the values of variables can be
written.
-/

namespace OpcUa.AddressSpace

/-- What reading an attribute answers. Only a value has a source timestamp, and the status that
was written with it is not given back: an attribute that is there is read with a good status. -/
def read (s : AddressSpace) (now : Timestamp) (item : ReadItem) : DataValue :=
  match s.node? item.node with
  | none => (DataValue.ofStatus .badNodeIdUnknown).stamped now
  | some node =>
    match node.attribute? item.attributeId with
    | .error status => (DataValue.ofStatus status).stamped now
    | .ok value =>
      { value := value
        sourceTimestamp :=
          if item.attributeId = .value then node.value.bind DataValue.sourceTimestamp else none
        serverTimestamp := some now }

/-- Whether a value may take the place of another: one of them is empty, or their types agree. -/
def fits (current incoming : Variant) : Bool :=
  current.isEmpty || incoming.isEmpty || current.typeName == incoming.typeName

/-- Writes an attribute. A variable without a value is given an empty one before the types are
compared. -/
def write (s : AddressSpace) (now : Timestamp) (item : WriteItem) : StatusCode × AddressSpace :=
  match s.node? item.node with
  | none => (.badNodeIdUnknown, s)
  | some node =>
    if item.attributeId ≠ .value ∨ node.nodeClass ≠ .variable then (.badNotWritable, s)
    else
      let current := node.value.getD {}
      let space := s.putNode item.node { node with value := some current }
      if !fits current.value item.value.value then (.badTypeMismatch, space)
      else (.good, space.putNode item.node { node with value := some (item.value.written now) })

end OpcUa.AddressSpace
