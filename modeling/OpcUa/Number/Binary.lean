/-!
Binary floating-point numbers as bit patterns: which patterns are zeros, infinities or not a
number, and when two patterns are equal as numbers.
-/

namespace OpcUa.Number

structure Format where
  exponentBits : Nat
  fractionBits : Nat
deriving DecidableEq, Repr

namespace Format

def single : Format := ⟨8, 23⟩

def double : Format := ⟨11, 52⟩

variable (f : Format)

def fraction (bits : Nat) : Nat := bits % (1 <<< f.fractionBits)

def exponent (bits : Nat) : Nat := (bits >>> f.fractionBits) % (1 <<< f.exponentBits)

def isNegative (bits : Nat) : Bool := (bits >>> (f.fractionBits + f.exponentBits)) % 2 == 1

def specialExponent : Nat := (1 <<< f.exponentBits) - 1

def isFinite (bits : Nat) : Bool := f.exponent bits != f.specialExponent

def isNaN (bits : Nat) : Bool := f.exponent bits == f.specialExponent && f.fraction bits != 0

def isZero (bits : Nat) : Bool := f.exponent bits == 0 && f.fraction bits == 0

/-- Equality as numbers: the zeros are equal, and what is not a number equals nothing. -/
def equal (a b : Nat) : Bool :=
  !f.isNaN a && !f.isNaN b && (a == b || f.isZero a && f.isZero b)

def leastExponent : Int := 2 - (1 <<< (f.exponentBits - 1) : Nat) - f.fractionBits

def magnitude (bits : Nat) : Nat × Int :=
  if f.exponent bits = 0 then (f.fraction bits, f.leastExponent)
  else ((1 <<< f.fractionBits) + f.fraction bits, f.leastExponent + f.exponent bits - 1)

end Format

end OpcUa.Number
