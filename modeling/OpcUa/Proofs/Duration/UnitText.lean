import OpcUa.Duration.Units

/-!
Reading a duration that was written in units gives the duration back. The written text is a list of
terms that come to the duration together; reading adds up whatever terms it finds, and a sum that is
a duration never gets too large on the way.
-/

namespace OpcUa.Duration

open Text

/-! ### Sums of durations -/

theorem plus_ok {d : Duration} {seconds nanos : Nat} (below : nanos < 1000000000)
    (fits : d.toNanos + (seconds * 1000000000 + nanos) < UInt64.size * 1000000000) :
    ∃ sum, d.plus seconds nanos = .ok sum ∧
      sum.toNanos = d.toNanos + (seconds * 1000000000 + nanos) := by
  have part := d.nanos_lt
  simp only [toNanos, UInt64.size] at fits
  have inRange : d.nanos + nanos < UInt64.size ∧
      d.seconds.toNat + seconds + (d.nanos + nanos) / 1000000000 < UInt64.size := by
    simp only [UInt64.size]
    omega
  refine ⟨_, if_pos inRange, ?_⟩
  simp only [toNanos]
  rw [UInt64.toNat_ofNat_of_lt' inRange.2]
  omega

/-! ### Terms -/

def TimeUnit.toNanos (u : TimeUnit) : Nat := u.seconds * 1000000000 + u.nanos

/-- Texts of terms, each a count and a unit, and how many nanoseconds they come to. -/
inductive Amounts : List String → Nat → Prop
  | nil : Amounts [] 0
  | cons {count : Nat} {name : String} {u : TimeUnit} {rest : List String} {total : Nat}
      (small : count < UInt64.size) (below : count * u.nanos < 1000000000)
      (known : TimeUnit.ofText? name = some u) (tail : Amounts rest total) :
      Amounts ((Decimal.ofNat count ++ name) :: rest) (count * u.toNanos + total)

theorem Amounts.append {a b : List String} {m n : Nat} (first : Amounts a m) (then_ : Amounts b n) :
    Amounts (a ++ b) (m + n) := by
  induction first with
  | nil => simpa using then_
  | cons small below known _ ih =>
    rw [Nat.add_assoc]
    exact .cons small below known ih

theorem part_amounts {count : Nat} {unit plural : String} {u : TimeUnit}
    (one : TimeUnit.ofText? unit = some u) (several : TimeUnit.ofText? plural = some u)
    (small : count < UInt64.size) (below : count * u.nanos < 1000000000) :
    Amounts (part count unit plural) (count * u.toNanos) := by
  have term : ∀ name, TimeUnit.ofText? name = some u →
      Amounts [Decimal.ofNat count ++ name] (count * u.toNanos) := by
    intro name known
    have alone := Amounts.cons small below known .nil
    rwa [Nat.add_zero] at alone
  unfold part
  by_cases absent : count = 0
  · rw [if_pos absent, absent, Nat.zero_mul]
    exact .nil
  · rw [if_neg absent]
    split
    · exact term unit one
    · exact term plural several

/-- The terms of a duration come to the duration. -/
theorem parts_amounts (d : Duration) : Amounts d.parts d.toNanos := by
  have inRange := d.seconds.toNat_lt
  have nanos := d.nanos_lt
  unfold parts toNanos
  generalize d.seconds.toNat = s at inRange ⊢
  have total : s * 1000000000 + d.nanos =
      s / 31557600 * TimeUnit.year.toNanos +
      s % 31557600 / 2630016 * TimeUnit.month.toNanos +
      s % 31557600 % 2630016 / 86400 * TimeUnit.day.toNanos +
      s % 31557600 % 2630016 % 86400 / 3600 * TimeUnit.hour.toNanos +
      s % 31557600 % 2630016 % 86400 % 3600 / 60 * TimeUnit.minute.toNanos +
      s % 31557600 % 2630016 % 86400 % 60 * TimeUnit.second.toNanos +
      d.nanos / 1000000 * TimeUnit.millisecond.toNanos +
      d.nanos / 1000 % 1000 * TimeUnit.microsecond.toNanos +
      d.nanos % 1000 * TimeUnit.nanosecond.toNanos := by
    simp only [TimeUnit.toNanos, TimeUnit.seconds, TimeUnit.nanos]
    omega
  rw [total]
  repeat' apply Amounts.append
  all_goals
    apply part_amounts rfl rfl
    all_goals
      simp only [UInt64.size, TimeUnit.nanos]
      omega

/-! ### Reading terms -/

theorem splitRun_append {p : Char → Bool} {a b : List Char} (holds : ∀ c ∈ a, p c)
    (stops : ∀ c ∈ b.head?, p c = false) : splitRun p (a ++ b) = (a, b) := by
  obtain ⟨run, rest⟩ := Decimal.run_append holds stops
  rw [splitRun, run, rest]

theorem runValue_digits (n : Nat) : runValue (Decimal.digits n) = n := by
  have all : (Decimal.digits n).filter Char.isDigit = Decimal.digits n :=
    List.filter_eq_self.mpr fun _ => Decimal.isDigit_of_mem_digits
  rw [runValue, all, Decimal.value_digits]

theorem letters_of_ite {names : List String} {name : String} {u v : TimeUnit}
    {others : Option TimeUnit}
    (spelled : names.all fun n => !n.toList.isEmpty && n.toList.all isUnitLetter)
    (other : others = some u → name.toList ≠ [] ∧ ∀ c ∈ name.toList, isUnitLetter c) :
    (if name ∈ names then some v else others) = some u →
      name.toList ≠ [] ∧ ∀ c ∈ name.toList, isUnitLetter c := by
  by_cases listed : name ∈ names
  · have letters := List.all_eq_true.mp spelled name listed
    simp only [Bool.and_eq_true, Bool.not_eq_true', List.isEmpty_eq_false_iff,
      List.all_eq_true] at letters
    exact fun _ => letters
  · rwa [if_neg listed]

/-- Every unit is spelled in letters. -/
theorem letters_of_known {name : String} {u : TimeUnit} (known : TimeUnit.ofText? name = some u) :
    name.toList ≠ [] ∧ ∀ c ∈ name.toList, isUnitLetter c := by
  revert known
  unfold TimeUnit.ofText?
  iterate 10 apply letters_of_ite rfl
  rintro ⟨⟩

theorem letter_range {c : Char} (letter : isUnitLetter c) :
    (65 ≤ c.toNat ∧ c.toNat ≤ 90) ∨ (97 ≤ c.toNat ∧ c.toNat ≤ 122) ∨ c.toNat = 181 := by
  have cases : (decide (c.val ≥ 'A'.val ∧ c.val ≤ 'Z'.val) ||
      (decide (c.val ≥ 'a'.val) && decide (c.val ≤ 'z'.val)) || c == 'µ') = true := letter
  simp only [Bool.or_eq_true, Bool.and_eq_true, decide_eq_true_eq, beq_iff_eq,
    UInt32.le_iff_toNat_le, ge_iff_le] at cases
  rcases cases with (upper | lower) | rfl
  · exact .inl upper
  · exact .inr (.inl lower)
  · exact .inr (.inr rfl)

theorem isDigit_iff {c : Char} : c.isDigit ↔ 48 ≤ c.toNat ∧ c.toNat ≤ 57 := by
  simp only [Char.isDigit, Bool.and_eq_true, decide_eq_true_eq, UInt32.le_iff_toNat_le, ge_iff_le]
  rfl

theorem isBlank_range {c : Char} (blank : isBlank c) :
    c.toNat < 48 ∨ 123 ≤ c.toNat ∧ c.toNat ≠ 181 := by
  simp only [isBlank, Bool.or_eq_true, Bool.and_eq_true, decide_eq_true_eq, beq_iff_eq] at blank
  omega

theorem not_digit_of_letter {c : Char} (letter : isUnitLetter c) :
    isDigitOrBlank c = false ∧ c ≠ '.' := by
  have range := letter_range letter
  have digit : c.isDigit = false := Bool.eq_false_iff.mpr fun digit => by
    have := isDigit_iff.mp digit
    omega
  have blank : isBlank c = false := Bool.eq_false_iff.mpr fun blank => by
    have := isBlank_range blank
    omega
  refine ⟨by simp [isDigitOrBlank, digit, blank], ?_⟩
  rintro rfl
  revert letter
  decide

theorem not_blank_of_digit {c : Char} (digit : c.isDigit) : isBlank c = false :=
  Bool.eq_false_iff.mpr fun blank => by
    have := isDigit_iff.mp digit
    have := isBlank_range blank
    omega

/-- What may follow a term: nothing, or a blank before the next one. -/
def Ends (rest : List Char) : Prop := rest = [] ∨ ∃ more, rest = ' ' :: more

theorem readTerm_append (offset : Nat) {count : Nat} {name : String} {u : TimeUnit}
    {rest : List Char} (small : count < UInt64.size) (known : TimeUnit.ofText? name = some u)
    (ends : Ends rest) :
    ∃ next, readTerm offset (Decimal.digits count ++ (name.toList ++ rest)) =
      .ok ⟨count, none, name, next, rest.tail⟩ := by
  obtain ⟨nonempty, letters⟩ := letters_of_known known
  obtain ⟨first, more, spelled⟩ := List.exists_cons_of_ne_nil nonempty
  have letter : isUnitLetter first := letters first (spelled ▸ List.mem_cons_self)
  obtain ⟨notDigit, notPoint⟩ := not_digit_of_letter letter
  have number : splitRun isDigitOrBlank (Decimal.digits count ++ (name.toList ++ rest)) =
      (Decimal.digits count, name.toList ++ rest) := by
    apply splitRun_append
    · intro c member
      simp [isDigitOrBlank, Decimal.isDigit_of_mem_digits member]
    · simp [spelled, notDigit]
  have unit : splitRun isUnitLetter (name.toList ++ rest) = (name.toList, rest) := by
    apply splitRun_append letters
    rcases ends with rfl | ⟨_, rfl⟩
    · simp
    · simp only [List.head?_cons, Option.mem_some]
      rintro c rfl
      decide
  unfold readTerm
  rw [spelled, List.cons_append] at number unit ⊢
  simp only [number, runValue_digits, ge_iff_le, Nat.not_le.mpr small, if_false]
  simp only [letter, if_true, pure_bind, unit, ← spelled, String.ofList_toList]
  rcases ends with rfl | ⟨_, rfl⟩
  · exact ⟨_, rfl⟩
  · exact ⟨_, rfl⟩

theorem toList_terms (count : Nat) (name : String) (texts : List String) :
    ∃ rest, Ends rest ∧ rest.tail = (String.intercalate " " texts).toList ∧
      (String.intercalate " " ((Decimal.ofNat count ++ name) :: texts)).toList =
        Decimal.digits count ++ (name.toList ++ rest) := by
  cases texts with
  | nil =>
    refine ⟨[], .inl rfl, rfl, ?_⟩
    rw [String.intercalate_singleton, String.toList_append, Decimal.ofNat, String.toList_ofList,
      List.append_nil]
  | cons text texts =>
    refine ⟨' ' :: (String.intercalate " " (text :: texts)).toList, .inr ⟨_, rfl⟩, rfl, ?_⟩
    rw [String.intercalate_cons_cons, String.toList_append, String.toList_append,
      String.toList_append, Decimal.ofNat, String.toList_ofList, List.append_assoc,
      List.append_assoc]
    rfl

/-- Reading adds up the terms, and does not fail as long as their sum is a duration. -/
theorem readTerms_amounts {texts : List String} {total : Nat} (terms : Amounts texts total)
    {d : Duration} (fits : d.toNanos + total < UInt64.size * 1000000000) {budget : Nat}
    (enough : texts.length ≤ budget) (offset : Nat) :
    ∃ sum, readTerms budget d offset (String.intercalate " " texts).toList = .ok sum ∧
      sum.toNanos = d.toNanos + total := by
  induction terms generalizing d budget offset with
  | nil => exact ⟨d, by unfold readTerms; rfl, (Nat.add_zero _).symm⟩
  | @cons count name u texts total small below known terms ih =>
    obtain ⟨budget, rfl⟩ : ∃ b, budget = b + 1 := ⟨budget - 1, by simp at enough; omega⟩
    obtain ⟨rest, ends, tail, written⟩ := toList_terms count name texts
    have weight : count * u.toNanos = count * u.seconds * 1000000000 + count * u.nanos := by
      rw [TimeUnit.toNanos, Nat.mul_add, Nat.mul_assoc]
    rw [weight] at fits ⊢
    obtain ⟨sum, added, value⟩ := plus_ok below
      (Nat.lt_of_le_of_lt (Nat.add_le_add_left (Nat.le_add_right _ total) _) fits)
    rw [← Nat.add_assoc, ← value] at fits ⊢
    obtain ⟨next, term⟩ := readTerm_append (offset + utf8Size []) small known ends
    have enough' : texts.length ≤ budget := by simpa using enough
    obtain ⟨all, read, value'⟩ := ih fits enough' next
    refine ⟨all, ?_, value'⟩
    -- The text begins with a digit, so a term is read, and what it leaves are the other terms.
    obtain ⟨c, digits, number, digit⟩ := Decimal.digits_cons count
    have unblank : splitRun isBlank (Decimal.digits count ++ (name.toList ++ rest)) =
        ([], Decimal.digits count ++ (name.toList ++ rest)) := by
      apply splitRun_append (List.forall_mem_nil _)
      simp [number, not_blank_of_digit digit]
    have summed : d.plusTerm count none name = .ok sum := by
      simp only [plusTerm, known, added]
      rfl
    rw [written]
    rw [number, List.cons_append] at unblank term ⊢
    rw [readTerms]
    simp only [unblank, digit, if_true, term]
    show (d.plusTerm count none name >>= fun d => readTerms budget d next rest.tail) = .ok all
    rw [summed, tail]
    exact read

theorem Amounts.length_le {texts : List String} {total : Nat} (terms : Amounts texts total) :
    texts.length ≤ (String.intercalate " " texts).toList.length := by
  induction terms with
  | nil => exact Nat.zero_le _
  | @cons count name u texts total small below known terms ih =>
    obtain ⟨rest, -, tail, written⟩ := toList_terms count name texts
    have first := List.length_pos_iff.mpr (Decimal.digits_ne_nil count)
    have others : texts.length ≤ rest.length := by
      rw [← tail, List.length_tail] at ih
      omega
    rw [written, List.length_append, List.length_append, List.length_cons]
    omega

/-- What comes to more than nothing begins with a digit, and goes on after it. -/
theorem Amounts.starts {texts : List String} {total : Nat} (terms : Amounts texts total)
    (some : 0 < total) :
    ∃ c d rest, (String.intercalate " " texts).toList = c :: d :: rest ∧ c.isDigit := by
  cases terms with
  | nil => contradiction
  | @cons count name u texts total small below known terms =>
    obtain ⟨rest, -, -, written⟩ := toList_terms count name texts
    obtain ⟨c, digits, number, digit⟩ := Decimal.digits_cons count
    obtain ⟨a, letters, spelled⟩ := List.exists_cons_of_ne_nil (letters_of_known known).1
    rw [written, number, spelled]
    cases digits with
    | nil => exact ⟨c, a, _, rfl, digit⟩
    | cons d digits => exact ⟨c, d, _, rfl, digit⟩

/-- Every duration is what its written form is read as. -/
theorem ofUnitText_unitText (d : Duration) : ofUnitText d.unitText = .ok d := by
  unfold unitText
  by_cases none : d.isZero
  · rw [if_pos none, isZero_iff.mp none]
    rfl
  · have some : 0 < d.toNanos := by
      apply Nat.pos_of_ne_zero
      intro none'
      exact none (isZero_iff.mpr (toNanos_inj none'))
    have terms := parts_amounts d
    obtain ⟨c, e, rest, written, digit⟩ := terms.starts some
    have fits : zero.toNanos + d.toNanos < UInt64.size * 1000000000 := by
      rw [show zero.toNanos = 0 from rfl, Nat.zero_add]
      exact toNanos_lt d
    obtain ⟨sum, read, value⟩ := readTerms_amounts terms fits terms.length_le 0
    have same : sum = d := toNanos_inj (value.trans (Nat.zero_add _))
    rw [if_neg none, ofUnitText, ← same, ← read]
    have blank : (c :: e :: rest).all isBlank = false := by simp [not_blank_of_digit digit]
    simp only [same, written, blank, List.cons.injEq, reduceCtorEq, and_false, if_false]

end OpcUa.Duration
