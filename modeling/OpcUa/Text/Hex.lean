/-!
Numbers in base sixteen with a fixed number of digits, and bytes as pairs of digits.
-/

namespace OpcUa.Text.Hex

inductive Case
  | upper
  | lower

def Case.ten : Case → Nat
  | .upper => 65
  | .lower => 97

def digit (case : Case) (n : Nat) : Char :=
  if n < 10 then Char.ofNat (48 + n) else Char.ofNat (case.ten + (n - 10))

def fixed (case : Case) : Nat → Nat → List Char
  | 0, _ => []
  | width + 1, n => fixed case width (n / 16) ++ [digit case (n % 16)]

theorem length_fixed (case : Case) (width n : Nat) : (fixed case width n).length = width := by
  induction width generalizing n with
  | zero => rfl
  | succ w ih => simp [fixed, ih]

def digitValue? (c : Char) : Option Nat :=
  if c.isDigit then some (c.toNat - 48)
  else if 'a' ≤ c ∧ c ≤ 'f' then some (c.toNat - 87)
  else if 'A' ≤ c ∧ c ≤ 'F' then some (c.toNat - 55)
  else none

theorem digitValue?_digit (case : Case) :
    ∀ {n : Nat}, n < 16 → digitValue? (digit case n) = some n := by
  cases case <;> decide

/-- The number written by a run of digits; none if a character is no digit. -/
def value? (cs : List Char) : Option Nat :=
  cs.foldlM (fun n c => (digitValue? c).map (16 * n + ·)) 0

/-- Reading the digits of a number gives the number back if there are enough of them. -/
theorem value?_fixed (case : Case) {width n : Nat} (fits : n < Nat.pow 16 width) :
    value? (fixed case width n) = some n := by
  induction width generalizing n with
  | zero =>
    obtain rfl : n = 0 := Nat.lt_one_iff.mp fits
    rfl
  | succ width ih =>
    have below : n < 16 * Nat.pow 16 width := by
      rw [Nat.mul_comm]
      exact fits
    have upper : value? (fixed case width (n / 16)) = some (n / 16) :=
      ih (Nat.div_lt_of_lt_mul below)
    rw [value?] at upper ⊢
    rw [fixed, List.foldlM_append, upper]
    simp [digitValue?_digit case (Nat.mod_lt n (by decide : 0 < 16)), Nat.div_add_mod]

def ofBytes (bytes : List UInt8) : String :=
  String.ofList (bytes.flatMap fun b => fixed .lower 2 b.toNat)

/-- The bytes written as pairs of digits; none if a pair is broken or is not made of digits. -/
def toBytes? : List Char → Option (List UInt8)
  | [] => some []
  | [_] => none
  | a :: b :: rest => do
    let byte ← value? [a, b]
    let bytes ← toBytes? rest
    return UInt8.ofNat byte :: bytes

end OpcUa.Text.Hex
