import OpcUa.Number.Binary

/-!
The binary floating-point number nearest to a quotient of natural numbers, and products and
quotients of such numbers rounded in the same way.
-/

namespace OpcUa.Number

/-- The whole number nearest to a quotient; a half goes to the even neighbour. -/
def roundHalfEven (num den : Nat) : Nat :=
  let q := num / den
  let twice := 2 * (num % den)
  if den < twice ∨ den = twice ∧ q % 2 = 1 then q + 1 else q

def scaleDown (num den : Nat) (e : Int) : Nat × Nat :=
  if 0 ≤ e then (num, den <<< e.toNat) else (num <<< (-e).toNat, den)

namespace Format

variable (f : Format)

def infinity : Nat := f.specialExponent <<< f.fractionBits

def placeOf (num den : Nat) : Int :=
  let e : Int := (num.log2 : Int) - den.log2 - f.fractionBits
  let (n, d) := scaleDown num den e
  max f.leastExponent (if n < d <<< f.fractionBits then e - 1 else e)

/-- The pattern nearest to `num / den`. A half goes to the even neighbour, and what is too great
for a finite number to infinity. -/
def nearest (num den : Nat) : Nat :=
  if num = 0 then 0
  else
    let e := f.placeOf num den
    let (n, d) := scaleDown num den e
    min f.infinity (((e - f.leastExponent).toNat <<< f.fractionBits) + roundHalfEven n d)

def ratio (bits : Nat) : Nat × Nat :=
  let (m, e) := f.magnitude bits
  scaleDown m 1 (-e)

def mul (a b : Nat) : Nat :=
  let (an, ad) := f.ratio a
  let (bn, bd) := f.ratio b
  f.nearest (an * bn) (ad * bd)

/-- The quotient of two finite patterns without sign; the second one is not zero. -/
def div (a b : Nat) : Nat :=
  let (an, ad) := f.ratio a
  let (bn, bd) := f.ratio b
  f.nearest (an * bd) (ad * bn)

def signBit : Nat := 1 <<< (f.fractionBits + f.exponentBits)

def unsigned (bits : Nat) : Nat := bits % f.signBit

def withSign (isNegative : Bool) (bits : Nat) : Nat :=
  if isNegative then bits + f.signBit else bits

/-- The pattern of another format for the same number, as near as it gets. The pattern has to be
a number. -/
def convert (target : Format) (bits : Nat) : Nat :=
  let size :=
    if f.isFinite bits then let (n, d) := f.ratio bits; target.nearest n d else target.infinity
  target.withSign (f.isNegative bits) size

end Format

end OpcUa.Number
