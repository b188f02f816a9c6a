import OpcUa.Variant

/-!
Values with their status and the times at which they were taken.
-/

namespace OpcUa

structure DataValue where
  value : Variant := .empty
  status : StatusCode := .good
  sourceTimestamp : Option Timestamp := none
  serverTimestamp : Option Timestamp := none
deriving BEq, Repr, Inhabited

namespace DataValue

def ofVariant (value : Variant) : DataValue where
  value := value

def ofStatus (status : StatusCode) : DataValue where
  status := status

def stamped (v : DataValue) (server : Timestamp) : DataValue :=
  { v with serverTimestamp := some server }

/-- The value as it is kept when it is written: with the source timestamp that it brings, or else
the present time. -/
def written (v : DataValue) (now : Timestamp) : DataValue :=
  { v with
    sourceTimestamp := v.sourceTimestamp.or (some now)
    serverTimestamp := some now }

def isGood (v : DataValue) : Bool := v.status.isGood

end DataValue

end OpcUa
