import OpcUa.Text.Hex

/-!
Status codes: 32-bit words whose two leading bits tell how severe they are. Codes that the
library uses or recognises have names of their own; every other code is named for its severity.
-/

namespace OpcUa

inductive Severity
  | good
  | uncertain
  | bad
deriving DecidableEq, Repr, Inhabited

namespace Severity

def text : Severity → String
  | good => "Good"
  | uncertain => "Uncertain"
  | bad => "Bad"

def all : List Severity := [good, uncertain, bad]

def name : Severity → String
  | good => "good"
  | uncertain => "uncertain"
  | bad => "bad"

/-- The severity of a raw code. Both patterns with the leading bit set are bad. -/
def ofBits (bits : UInt32) : Severity :=
  if bits >>> 30 = 0 then good else if bits >>> 30 = 1 then uncertain else bad

end Severity

structure StatusCode where
  bits : UInt32
deriving DecidableEq, Repr

namespace StatusCode

def good : StatusCode := ⟨0x00000000⟩
def uncertainReferenceNotDeleted : StatusCode := ⟨0x40BC0000⟩
def badUnexpectedError : StatusCode := ⟨0x80010000⟩
def badInternalError : StatusCode := ⟨0x80020000⟩
def badCommunicationError : StatusCode := ⟨0x80050000⟩
def badTimeout : StatusCode := ⟨0x800A0000⟩
def badShutdown : StatusCode := ⟨0x800C0000⟩
def badServerNotConnected : StatusCode := ⟨0x800D0000⟩
def badTooManyOperations : StatusCode := ⟨0x80100000⟩
def badNodeIdUnknown : StatusCode := ⟨0x80340000⟩
def badAttributeIdInvalid : StatusCode := ⟨0x80350000⟩
def badNotWritable : StatusCode := ⟨0x803B0000⟩
def badNotFound : StatusCode := ⟨0x803E0000⟩
def badReferenceTypeIdInvalid : StatusCode := ⟨0x804C0000⟩
def badParentNodeIdInvalid : StatusCode := ⟨0x805B0000⟩
def badReferenceNotAllowed : StatusCode := ⟨0x805C0000⟩
def badNodeIdExists : StatusCode := ⟨0x805E0000⟩
def badNodeClassInvalid : StatusCode := ⟨0x805F0000⟩
def badBrowseNameInvalid : StatusCode := ⟨0x80600000⟩
def badNodeAttributesInvalid : StatusCode := ⟨0x80620000⟩
def badTypeDefinitionInvalid : StatusCode := ⟨0x80630000⟩
def badSourceNodeIdInvalid : StatusCode := ⟨0x80640000⟩
def badTargetNodeIdInvalid : StatusCode := ⟨0x80650000⟩
def badDuplicateReferenceNotAllowed : StatusCode := ⟨0x80660000⟩
def badTypeMismatch : StatusCode := ⟨0x80740000⟩
def badConfigurationError : StatusCode := ⟨0x80890000⟩
def badDisconnect : StatusCode := ⟨0x80AD0000⟩
def badConnectionClosed : StatusCode := ⟨0x80AE0000⟩

instance : Inhabited StatusCode := ⟨good⟩

def severity (c : StatusCode) : Severity := .ofBits c.bits

def isGood (c : StatusCode) : Bool := c.bits >>> 30 == 0

def isUncertain (c : StatusCode) : Bool := c.bits >>> 30 == 1

def isBad (c : StatusCode) : Bool := c.bits >>> 30 ≥ 2

def standardNames : List (UInt32 × String) := [
  (0x00000000, "Good"),
  (0x40BC0000, "UncertainReferenceNotDeleted"),
  (0x80010000, "BadUnexpectedError"),
  (0x80020000, "BadInternalError"),
  (0x80030000, "BadOutOfMemory"),
  (0x80040000, "BadResourceUnavailable"),
  (0x80050000, "BadCommunicationError"),
  (0x80060000, "BadEncodingError"),
  (0x80070000, "BadDecodingError"),
  (0x800A0000, "BadTimeout"),
  (0x800B0000, "BadServiceUnsupported"),
  (0x800C0000, "BadShutdown"),
  (0x800D0000, "BadServerNotConnected"),
  (0x800E0000, "BadServerHalted"),
  (0x800F0000, "BadNothingToDo"),
  (0x80100000, "BadTooManyOperations"),
  (0x80340000, "BadNodeIdUnknown"),
  (0x80350000, "BadAttributeIdInvalid"),
  (0x803A0000, "BadNotReadable"),
  (0x803B0000, "BadNotWritable"),
  (0x803E0000, "BadNotFound"),
  (0x804C0000, "BadReferenceTypeIdInvalid"),
  (0x805B0000, "BadParentNodeIdInvalid"),
  (0x805C0000, "BadReferenceNotAllowed"),
  (0x805E0000, "BadNodeIdExists"),
  (0x805F0000, "BadNodeClassInvalid"),
  (0x80600000, "BadBrowseNameInvalid"),
  (0x80620000, "BadNodeAttributesInvalid"),
  (0x80630000, "BadTypeDefinitionInvalid"),
  (0x80640000, "BadSourceNodeIdInvalid"),
  (0x80650000, "BadTargetNodeIdInvalid"),
  (0x80660000, "BadDuplicateReferenceNotAllowed"),
  (0x80740000, "BadTypeMismatch"),
  (0x80890000, "BadConfigurationError"),
  (0x80AD0000, "BadDisconnect"),
  (0x80AE0000, "BadConnectionClosed")]

def name (c : StatusCode) : String :=
  (standardNames.lookup c.bits).getD c.severity.text

def hex (c : StatusCode) : String := "0x" ++ String.ofList (Text.Hex.fixed .upper 8 c.bits.toNat)

/-- The display text: the name, and the code in parentheses. -/
def text (c : StatusCode) : String := c.name ++ " (" ++ c.hex ++ ")"

def debugText (c : StatusCode) : String := "StatusCode(" ++ c.name ++ ", " ++ c.hex ++ ")"

instance : LE StatusCode := ⟨fun a b => a.bits ≤ b.bits⟩

instance : DecidableLE StatusCode := fun a b => inferInstanceAs (Decidable (a.bits ≤ b.bits))

def sorted (codes : List StatusCode) : List StatusCode := codes.mergeSort (fun a b => a ≤ b)

/-- The greatest code of a list; none if it is empty. -/
def max? : List StatusCode → Option StatusCode
  | [] => none
  | c :: rest => some (rest.foldl (fun a b => if a ≤ b then b else a) c)

end StatusCode

end OpcUa
