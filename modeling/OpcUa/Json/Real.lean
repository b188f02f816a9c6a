import OpcUa.Json.Form
import OpcUa.Number.Nearest
import OpcUa.Number.Shortest

/-!
Floating-point numbers in JSON. They are written with the fewest digits that read back.
Reading is not correctly rounded: the digits are taken as a whole number of 64 bits as far as
they fit, which is rounded, and then multiplied or divided by a rounded power of ten.
-/

namespace OpcUa

namespace Literal

structure Spread where
  least : Int
  greatest : Int

/-- The number of a scientific form: with a point if its exponent lies in the spread, and with a
power of ten otherwise. -/
def ofScientific (spread : Spread) (isNegative : Bool) (s : Number.Scientific) : Literal :=
  if spread.least ≤ s.exponent ∧ s.exponent ≤ spread.greatest then
    let (whole, fraction) := s.positional
    ⟨isNegative, whole, fraction, none⟩
  else ⟨isNegative, s.digits.take 1, s.digits.drop 1, some s.exponent⟩

def doubleSpread : Spread := ⟨-5, 15⟩

def singleSpread : Spread := ⟨-6, 12⟩

def ofPattern (f : Number.Format) (spread : Spread) (bits : Nat) : Literal :=
  ofScientific spread (f.isNegative bits) (f.shortest .toEven bits)

/-! ### Reading -/

def gather : Nat → List Char → Nat × List Char
  | n, [] => (n, [])
  | n, c :: cs =>
    let m := 10 * n + Text.Decimal.digitValue c
    if m < UInt64.size then gather m cs else (n, c :: cs)

def greatestStep : Nat := 308

def powerOfTen (k : Nat) : Nat := Number.Format.double.nearest (Nat.pow 10 k) 1

/-- A rounded number times a power of ten. A product past the finite numbers is none. Three
divisions by the greatest step leave nothing of any number. -/
def scale : Nat → Nat → Int → Option Nat
  | 0, _, _ => some 0
  | budget + 1, bits, e =>
    if bits = 0 then some 0
    else if 0 ≤ e then
      if e ≤ greatestStep then
        let product := Number.Format.double.mul bits (powerOfTen e.toNat)
        if Number.Format.double.isFinite product then some product else none
      else none
    else if -e ≤ greatestStep then
      some (Number.Format.double.div bits (powerOfTen (-e).toNat))
    else scale budget (Number.Format.double.div bits (powerOfTen greatestStep)) (e + greatestStep)

/-- The significand and the power of ten that a number is read with. Digits that do not fit are
dropped, those before the point in favour of the power. -/
def parts (l : Literal) : Nat × Int :=
  let (n, dropped) := gather 0 l.whole
  let (m, unread) := gather n l.fraction
  (m, dropped.length - (l.fraction.length - unread.length : Nat) + l.exponent.getD 0)

def toDouble? (l : Literal) : Option Nat := do
  let (m, e) := l.parts
  let size ← scale 4 (Number.Format.double.nearest m 1) e
  some (Number.Format.double.withSign l.isNegative size)

/-- The pattern of 32 bits that a number is read as. A whole number is rounded once, any other
by way of 64 bits. -/
def toSingle? (l : Literal) : Option Nat :=
  match l.toInt? with
  | some n =>
    if Int64.minValue.toInt ≤ n ∧ n < UInt64.size then
      some (Number.Format.single.withSign (n < 0) (Number.Format.single.nearest n.natAbs 1))
    else l.toDouble?.map (Number.Format.double.convert .single)
  | none => l.toDouble?.map (Number.Format.double.convert .single)

end Literal

namespace Form

/-- Numbers of 64 bits. What is not finite is written as `null`, which is not read back. -/
def double : Form UInt64 where
  write bits :=
    if Number.Format.double.isFinite bits.toNat then
      .number (.ofPattern .double Literal.doubleSpread bits.toNat)
    else .null
  read
    | _, .number l => l.toDouble?.map UInt64.ofNat
    | _, _ => none

/-- Numbers of 32 bits. What is not finite is written as `null`, which is not read back. -/
def single : Form UInt32 where
  write bits :=
    if Number.Format.single.isFinite bits.toNat then
      .number (.ofPattern .single Literal.singleSpread bits.toNat)
    else .null
  read
    | _, .number l => l.toSingle?.map UInt32.ofNat
    | _, _ => none

end Form

end OpcUa
