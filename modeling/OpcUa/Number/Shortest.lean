import OpcUa.Number.Binary
import OpcUa.Text.Decimal

/-!
The shortest decimal number that lies so close to a binary one that reading it gives the binary
number back; of two that are equally short, the nearer one.
-/

namespace OpcUa.Number

/-- Digits with the power of ten of the first of them: `[1, 2, 5]` with 1 stand for 12.5. -/
structure Scientific where
  digits : List Char
  exponent : Int
deriving DecidableEq, Repr

namespace Scientific

/-- The digits before and after the decimal point; there is at least one on either side. -/
def positional (s : Scientific) : List Char × List Char :=
  let atLeastOne := fun (cs : List Char) => if cs.isEmpty then ['0'] else cs
  if s.exponent < 0 then
    (['0'], List.replicate ((-s.exponent).toNat - 1) '0' ++ s.digits)
  else
    let n := s.exponent.toNat + 1
    (s.digits.take n ++ List.replicate (n - s.digits.length) '0', atLeastOne (s.digits.drop n))

end Scientific

inductive Tie
  | toEven
  | upwards

def leadingPower (num den : Nat) : Int :=
  if den ≤ num then (Text.Decimal.digits (num / den)).length - 1
  else -((Text.Decimal.digits ((den - 1) / num)).length : Int)

/-- The numbers that are read as one binary number: all between `low / den` and `high / den`,
and `value / den` among them. -/
structure Interval where
  low : Nat
  value : Nat
  high : Nat
  den : Nat
  includesEnds : Bool

namespace Interval

def contains (i : Interval) (n d : Nat) : Bool :=
  if i.includesEnds then i.low * d ≤ n * i.den && n * i.den ≤ i.high * d
  else i.low * d < n * i.den && n * i.den < i.high * d

def onGrid (i : Interval) (tie : Tie) (k : Int) : Option Nat :=
  let (stepNum, stepDen) := if 0 ≤ k then (Nat.pow 10 k.toNat, 1) else (1, Nat.pow 10 (-k).toNat)
  let below := i.value * stepDen / (i.den * stepNum)
  let rest := i.value * stepDen % (i.den * stepNum)
  let above := below + 1
  let hasBelow := i.contains (below * stepNum) stepDen
  let hasAbove := i.contains (above * stepNum) stepDen
  let belowIsNearer := 2 * rest < i.den * stepNum ||
    2 * rest == i.den * stepNum && (match tie with | .toEven => below % 2 == 0 | .upwards => false)
  if hasBelow && hasAbove then some (if belowIsNearer then below else above)
  else if hasBelow then some below
  else if hasAbove then some above
  else none

def shortest (i : Interval) (tie : Tie) : Nat → Int → Nat × Int
  | 0, k => (i.value * Nat.pow 10 (-k).toNat / (i.den * Nat.pow 10 k.toNat), k)
  | budget + 1, k =>
    match i.onGrid tie k with
    | some n => (n, k)
    | none => i.shortest tie budget (k - 1)

end Interval

namespace Format

variable (f : Format)

/-- The numbers that are read as a finite pattern. The gap below a power of two is half as wide
as the gap above it. -/
def interval (bits : Nat) : Interval :=
  let (m, e) := f.magnitude bits
  let below := if f.fraction bits = 0 ∧ 1 < f.exponent bits then 1 else 2
  let (scale, den) := if 0 ≤ e then (1 <<< e.toNat, 1) else (1, 1 <<< (-e).toNat)
  { low := (4 * m - below) * scale
    value := 4 * m * scale
    high := (4 * m + 2) * scale
    den := 4 * den
    includesEnds := m % 2 == 0 }

/-- The shortest decimal of a finite pattern, without its sign. No pattern of the two formats
needs more than seventeen digits. -/
def shortest (tie : Tie) (bits : Nat) : Scientific :=
  if f.isZero bits then ⟨['0'], 0⟩
  else
    let i := f.interval bits
    let (n, k) := i.shortest tie 17 (leadingPower i.value i.den)
    let digits := Text.Decimal.digits n
    ⟨Text.Decimal.trimEnd digits, k + digits.length - 1⟩

end Format

end OpcUa.Number
