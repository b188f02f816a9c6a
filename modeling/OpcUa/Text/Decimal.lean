/-!
Numbers in base ten. `digits` writes a natural number without leading zeros and `value` reads
digits back; `value_digits` says that reading undoes writing.
-/

namespace OpcUa.Text.Decimal

def digit (n : Nat) : Char := Char.ofNat (48 + n)

def digitValue (c : Char) : Nat := c.toNat - 48

/-- The digits of a number, the leading one first; zero has one digit. -/
def digits (n : Nat) : List Char :=
  if n < 10 then [digit n] else digits (n / 10) ++ [digit (n % 10)]
termination_by n

/-- The number written by a run of digits; the empty run counts as zero. -/
def value (cs : List Char) : Nat := cs.foldl (fun n c => 10 * n + digitValue c) 0

theorem digitValue_digit : ∀ {n : Nat}, n < 10 → digitValue (digit n) = n := by decide

theorem isDigit_digit : ∀ {n : Nat}, n < 10 → (digit n).isDigit = true := by decide

theorem value_append_singleton (cs : List Char) (c : Char) :
    value (cs ++ [c]) = 10 * value cs + digitValue c := by
  simp [value]

theorem value_digits (n : Nat) : value (digits n) = n := by
  fun_induction digits n with
  | case1 n h => simp [value, digitValue_digit h]
  | case2 n h ih => rw [value_append_singleton, ih, digitValue_digit (by omega)]; omega

theorem digits_ne_nil (n : Nat) : digits n ≠ [] := by
  unfold digits; split <;> simp

theorem isDigit_of_mem_digits {n : Nat} : ∀ {c : Char}, c ∈ digits n → c.isDigit = true := by
  fun_induction digits n with
  | case1 n h => intro c hc; rw [List.mem_singleton.1 hc]; exact isDigit_digit h
  | case2 n h ih =>
    intro c hc
    rcases List.mem_append.1 hc with hc | hc
    · exact ih hc
    · rw [List.mem_singleton.1 hc]; exact isDigit_digit (by omega)

/-- A number begins with a digit. -/
theorem digits_cons (n : Nat) : ∃ c ds, digits n = c :: ds ∧ c.isDigit := by
  obtain ⟨c, ds, written⟩ := List.exists_cons_of_ne_nil (digits_ne_nil n)
  exact ⟨c, ds, written, isDigit_of_mem_digits (written ▸ List.mem_cons_self)⟩

/-- A run of characters of one kind is told apart from what follows it. -/
theorem run_append {kind : Char → Bool} {run rest : List Char} (holds : ∀ c ∈ run, kind c)
    (stops : ∀ c ∈ rest.head?, kind c = false) :
    (run ++ rest).takeWhile kind = run ∧ (run ++ rest).dropWhile kind = rest := by
  have none : rest.takeWhile kind = [] ∧ rest.dropWhile kind = rest := by
    cases rest with
    | nil => exact ⟨rfl, rfl⟩
    | cons c cs => simp [stops c rfl]
  simp [List.takeWhile_append_of_pos holds, List.dropWhile_append_of_pos holds, none]

/-- No number but zero begins with a zero. -/
theorem digits_cases (n : Nat) :
    digits n = ['0'] ∨ ∃ c ds, digits n = c :: ds ∧ c ≠ '0' := by
  fun_induction digits n with
  | case1 n small =>
    by_cases none : n = 0
    · exact .inl (by rw [none]; rfl)
    · have nonzero : ∀ k < 10, k ≠ 0 → digit k ≠ '0' := by decide
      exact .inr ⟨_, _, rfl, nonzero n small none⟩
  | case2 n large ih =>
    rcases ih with none | ⟨c, ds, written, nonzero⟩
    · have read := value_digits (n / 10)
      rw [none, show value ['0'] = 0 from rfl] at read
      omega
    · exact .inr ⟨c, _, by rw [written, List.cons_append], nonzero⟩

theorem digits_inj {m n : Nat} (h : digits m = digits n) : m = n := by
  rw [← value_digits m, h, value_digits]

def ofNat (n : Nat) : String := String.ofList (digits n)

/-- The decimal text of an integer; a minus sign stands before the digits of a negative one. -/
def ofInt : Int → String
  | .ofNat n => ofNat n
  | .negSucc n => "-" ++ ofNat (n + 1)

def padded (width n : Nat) : List Char :=
  List.replicate (width - (digits n).length) '0' ++ digits n

theorem length_digits_le {width n : Nat} (positive : 0 < width) (fits : n < Nat.pow 10 width) :
    (digits n).length ≤ width := by
  fun_induction digits n generalizing width with
  | case1 n small => exact positive
  | case2 n large ih =>
    match width, positive with
    | 1, _ => exact absurd fits large
    | width + 2, _ =>
      have shorter : n / 10 < Nat.pow 10 (width + 1) := Nat.div_lt_of_lt_mul <| by
        rw [Nat.mul_comm]
        exact fits
      have length := ih (Nat.succ_pos width) shorter
      rw [List.length_append, List.length_singleton]
      omega

theorem length_padded {width n : Nat} (positive : 0 < width) (fits : n < Nat.pow 10 width) :
    (padded width n).length = width := by
  have length := length_digits_le positive fits
  rw [padded, List.length_append, List.length_replicate]
  omega

theorem isDigit_of_mem_padded {width n : Nat} {c : Char} (member : c ∈ padded width n) :
    c.isDigit = true := by
  rcases List.mem_append.1 member with zero | digit
  · rw [(List.mem_replicate.1 zero).2]
    rfl
  · exact isDigit_of_mem_digits digit

theorem value_padded (width n : Nat) : value (padded width n) = n := by
  have zeros (k : Nat) : value (List.replicate k '0' ++ digits n) = n := by
    induction k with
    | zero => exact value_digits n
    | succ k ih => exact ih
  exact zeros _

def trimEnd (cs : List Char) : List Char := (cs.reverse.dropWhile (· == '0')).reverse

end OpcUa.Text.Decimal
