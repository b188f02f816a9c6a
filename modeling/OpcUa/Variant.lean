import OpcUa.Names
import OpcUa.NodeId
import OpcUa.Number.Binary
import OpcUa.StatusCode
import OpcUa.Timestamp.Basic

/-!
Attribute values. A variant holds one value of one of twenty types, arrays of variants among
them. Floating-point values are kept as bit patterns, so that no pattern is lost.
-/

namespace OpcUa

inductive Variant
  | empty
  | boolean (value : Bool)
  | sbyte (value : Int8)
  | byte (value : UInt8)
  | int16 (value : Int16)
  | uint16 (value : UInt16)
  | int32 (value : Int32)
  | uint32 (value : UInt32)
  | int64 (value : Int64)
  | uint64 (value : UInt64)
  | float (bits : UInt32)
  | double (bits : UInt64)
  | string (value : String)
  | dateTime (value : Timestamp)
  | byteString (value : List UInt8)
  | nodeId (value : NodeId)
  | qualifiedName (value : QualifiedName)
  | localizedText (value : LocalizedText)
  | statusCode (value : StatusCode)
  | array (values : List Variant)
deriving Repr

namespace Variant

instance : Inhabited Variant := ⟨empty⟩

def isEmpty : Variant → Bool
  | empty => true
  | _ => false

def typeName : Variant → String
  | empty => "Empty"
  | boolean _ => "Boolean"
  | sbyte _ => "SByte"
  | byte _ => "Byte"
  | int16 _ => "Int16"
  | uint16 _ => "UInt16"
  | int32 _ => "Int32"
  | uint32 _ => "UInt32"
  | int64 _ => "Int64"
  | uint64 _ => "UInt64"
  | float _ => "Float"
  | double _ => "Double"
  | string _ => "String"
  | dateTime _ => "DateTime"
  | byteString _ => "ByteString"
  | nodeId _ => "NodeId"
  | qualifiedName _ => "QualifiedName"
  | localizedText _ => "LocalizedText"
  | statusCode _ => "StatusCode"
  | array _ => "Array"

def qualifiedName? : Variant → Option QualifiedName
  | qualifiedName q => some q
  | _ => none

mutual

/-- Equality of values: floating-point values are compared as numbers, all others exactly. -/
def same : Variant → Variant → Bool
  | empty, empty => true
  | boolean a, boolean b => a == b
  | sbyte a, sbyte b => a == b
  | byte a, byte b => a == b
  | int16 a, int16 b => a == b
  | uint16 a, uint16 b => a == b
  | int32 a, int32 b => a == b
  | uint32 a, uint32 b => a == b
  | int64 a, int64 b => a == b
  | uint64 a, uint64 b => a == b
  | float a, float b => Number.Format.single.equal a.toNat b.toNat
  | double a, double b => Number.Format.double.equal a.toNat b.toNat
  | string a, string b => a == b
  | dateTime a, dateTime b => a == b
  | byteString a, byteString b => a == b
  | nodeId a, nodeId b => a == b
  | qualifiedName a, qualifiedName b => a == b
  | localizedText a, localizedText b => a == b
  | statusCode a, statusCode b => a == b
  | array a, array b => sameAll a b
  | _, _ => false

def sameAll : List Variant → List Variant → Bool
  | [], [] => true
  | a :: as, b :: bs => same a b && sameAll as bs
  | _, _ => false

end

instance : BEq Variant := ⟨same⟩

end Variant

end OpcUa
