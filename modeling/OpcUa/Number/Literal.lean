import OpcUa.Number.Nearest
import OpcUa.Text.Decimal

/-!
Decimal numbers as they are written, and the whole and the binary numbers that they stand for.
-/

namespace OpcUa

/-- A number as it is written: digits before the point, digits after it, and a power of ten. -/
structure Literal where
  isNegative : Bool := false
  whole : List Char
  fraction : List Char := []
  exponent : Option Int := none
deriving DecidableEq, Repr, Inhabited

namespace Literal

def ofInt (n : Int) : Literal where
  isNegative := n < 0
  whole := Text.Decimal.digits n.natAbs

/-- The whole number that is written without a point and without a power of ten. Zero with a
minus sign is none: it stands for the negative zero of the floating-point numbers. -/
def toInt? (l : Literal) : Option Int :=
  if l.fraction.isEmpty && l.exponent.isNone then
    let n := Text.Decimal.value l.whole
    if l.isNegative then if n = 0 then none else some (-n) else some n
  else none

def decimal (l : Literal) : Nat × Int :=
  (Text.Decimal.value (l.whole ++ l.fraction), l.exponent.getD 0 - l.fraction.length)

def farAway : Int := 400

def nearestDouble (l : Literal) : Nat :=
  let (n, e) := l.decimal
  let top : Int := e + (Text.Decimal.digits n).length
  Number.Format.double.withSign l.isNegative <|
    if n = 0 ∨ top < -farAway then 0
    else if farAway < top then Number.Format.double.infinity
    else if 0 ≤ e then Number.Format.double.nearest (n * Nat.pow 10 e.toNat) 1
    else Number.Format.double.nearest n (Nat.pow 10 (-e).toNat)

end Literal

end OpcUa
