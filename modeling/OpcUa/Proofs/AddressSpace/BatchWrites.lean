import Mathlib.Data.List.Nodup
import OpcUa.Proofs.AddressSpace.Writing

/-!
Requests that write many items. Each item is accepted or refused on what the items before it have
left; in the end every variable holds the value of the last item for it that was accepted, and all
else is as it was. Items for different nodes do not meet, so that their order makes no difference.
-/

namespace OpcUa

namespace Node

/-- A node to which a value was written, or none. -/
def rewritten (n : Node) (now : Timestamp) : Option DataValue → Node
  | some v => { n with value := some (v.written now) }
  | none => n

/-- Two nodes that differ at most in the time at which a value was written. -/
inductive Alike : Node → Node → Prop
  | rewritten (n : Node) (now now' : Timestamp) (v : Option DataValue) :
      Alike (n.rewritten now v) (n.rewritten now' v)

end Node

namespace AddressSpace

variable {now now' : Timestamp} {s t : AddressSpace} {id : NodeId} {n : Node}
  {item : WriteItem} {items items' : List WriteItem}

/-- Two address spaces that differ at most in the times at which values were written. -/
structure Alike (s t : AddressSpace) : Prop where
  nodes : ∀ id, Option.Rel Node.Alike (s.node? id) (t.node? id)
  references : s.references = t.references
  nextId : s.nextId = t.nextId

/-! ### One item -/

/-- The value that an item gives to a node: its own, if it is for that node and accepted. -/
def given (id : NodeId) (item : WriteItem) (status : StatusCode) : Option DataValue :=
  if item.node = id ∧ status = .good then some item.value else none

end AddressSpace

end OpcUa
