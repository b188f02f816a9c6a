import OpcUa.Proofs.Timestamp.Calendar
import OpcUa.Timestamp.Text

/-!
A point in time within the years of four digits is what its text is read as. The parts of the text
have fixed widths, so that each is read without a look at what follows.
-/

namespace OpcUa.Timestamp

open Text

/-! ### The parts of a text -/

theorem not_isBlank_of_isDigit {c : Char} (digit : c.isDigit) : isBlank c = false := by
  have bounds : 48 ≤ c.toNat ∧ c.toNat ≤ 57 := by
    simpa [Char.isDigit, UInt32.le_iff_toNat_le] using digit
  simp [isBlank]
  omega

theorem padded_ne_nil (width n : Nat) : Decimal.padded width n ≠ [] := by
  simp [Decimal.padded, Decimal.digits_ne_nil]

theorem padded_cons (width n : Nat) :
    ∃ c cs, Decimal.padded width n = c :: cs ∧ c.isDigit := by
  obtain ⟨c, cs, written⟩ := List.exists_cons_of_ne_nil (padded_ne_nil width n)
  exact ⟨c, cs, written, Decimal.isDigit_of_mem_padded (written ▸ List.mem_cons_self)⟩

theorem dropBlank_padded (width n : Nat) (rest : List Char) :
    (Decimal.padded width n ++ rest).dropWhile isBlank = Decimal.padded width n ++ rest := by
  obtain ⟨c, cs, written, digit⟩ := padded_cons width n
  rw [written, List.cons_append, List.dropWhile_cons_of_neg]
  simp [not_isBlank_of_isDigit digit]

theorem leadingDigits_padded {width n : Nat} (positive : 0 < width) (fits : n < Nat.pow 10 width)
    (rest : List Char) :
    leadingDigits width (Decimal.padded width n ++ rest) = (Decimal.padded width n, rest) := by
  have first : (Decimal.padded width n ++ rest).take width = Decimal.padded width n :=
    List.take_left' (Decimal.length_padded positive fits)
  have run : (Decimal.padded width n).takeWhile Char.isDigit = Decimal.padded width n := by
    have digits : ∀ c ∈ Decimal.padded width n, c.isDigit := fun _ => Decimal.isDigit_of_mem_padded
    have split := (@Decimal.run_append _ _ [] digits (by simp)).1
    rwa [List.append_nil] at split
  rw [leadingDigits, first, run, List.drop_left' rfl]

theorem readNumber_padded {width n : Nat} (positive : 0 < width) (fits : n < Nat.pow 10 width)
    (rest : List Char) : readNumber width (Decimal.padded width n ++ rest) = some (n, rest) := by
  rw [readNumber, dropBlank_padded, leadingDigits_padded positive fits]
  simp [Decimal.value_padded, padded_ne_nil]

theorem readYear_padded {year : Nat} (fits : year < 10000) (rest : List Char) :
    readYear (Decimal.padded 4 year ++ rest) = some ((year : Int), rest) := by
  obtain ⟨c, cs, written, digit⟩ := padded_cons 4 year
  have number := readNumber_padded (by decide) (show year < Nat.pow 10 4 from fits) rest
  have unsigned : c ≠ '-' ∧ c ≠ '+' := by
    constructor <;> (rintro rfl; cases digit)
  rw [readYear, dropBlank_padded]
  rw [written, List.cons_append] at number ⊢
  split
  next same => exact absurd (List.cons.inj same).1 unsigned.1
  next same => exact absurd (List.cons.inj same).1 unsigned.2
  next => rw [number, Option.map_some]

theorem readMark_cons {mark : Char} (shown : isBlank mark = false) (rest : List Char) :
    readMark mark (mark :: rest) = some rest := by
  simp [readMark, shown]

theorem readFraction_padded {width n : Nat} (positive : 0 < width) (most : width ≤ 9)
    (fits : n < Nat.pow 10 width) {rest : List Char} (stops : ∀ c ∈ rest.head?, c.isDigit = false) :
    readFraction ('.' :: (Decimal.padded width n ++ rest)) =
      some (n * Nat.pow 10 (9 - width), rest) := by
  have length := Decimal.length_padded positive fits
  have digits : ∀ c ∈ Decimal.padded width n, c.isDigit := fun _ => Decimal.isDigit_of_mem_padded
  obtain ⟨run, others⟩ := Decimal.run_append digits stops
  have kept : (Decimal.padded width n).take 9 = Decimal.padded width n :=
    List.take_of_length_le (by omega)
  simp [readFraction, run, others, kept, length, padded_ne_nil, Decimal.value_padded]

theorem readFraction_none {rest : List Char} (stops : ∀ c ∈ rest.head?, c ≠ '.') :
    readFraction rest = some (0, rest) := by
  cases rest with
  | nil => rfl
  | cons c cs => simp [readFraction, stops c rfl]

theorem readFraction_fractionText {nanos : Nat} (below : nanos < 1000000000) {rest : List Char}
    (stops : ∀ c ∈ rest.head?, c.isDigit = false ∧ c ≠ '.') :
    readFraction ((fractionText nanos).toList ++ rest) = some (nanos, rest) := by
  have digits (width n : Nat) (positive : 0 < width) (most : width ≤ 9)
      (fits : n < Nat.pow 10 width) (exact_ : n * Nat.pow 10 (9 - width) = nanos) :
      readFraction (("." ++ String.ofList (Decimal.padded width n)).toList ++ rest) =
        some (nanos, rest) := by
    have read := readFraction_padded positive most fits fun c first => (stops c first).1
    rw [exact_] at read
    simpa using read
  unfold fractionText
  split
  next zero =>
    rw [zero]
    exact readFraction_none fun c first => (stops c first).2
  split
  next =>
    exact digits 3 _ (by decide) (by decide) (show nanos / 1000000 < 1000 by omega)
      (show nanos / 1000000 * 1000000 = nanos by omega)
  split
  next =>
    exact digits 6 _ (by decide) (by decide) (show nanos / 1000 < 1000000 by omega)
      (show nanos / 1000 * 1000 = nanos by omega)
  next => exact digits 9 _ (by decide) (by decide) below (Nat.mul_one nanos)

/-! ### Whole texts -/

/-- The date of a point in time. -/
def date (t : Timestamp) : Date := Date.ofDays (t.seconds / 86400)

/-- The seconds that have passed of the day. -/
def inDay (t : Timestamp) : Nat := (t.seconds % 86400).toNat

/-- Whether a point in time is within the years 1 to 9999 and no leap second. -/
structure IsCommon (t : Timestamp) : Prop where
  year_pos : 1 ≤ t.date.year
  year_le : t.date.year ≤ 9999
  nanos_lt : t.nanos < 1000000000

theorem inDay_lt (t : Timestamp) : t.inDay < 86400 := by
  rw [inDay]
  omega

theorem toList_text {t : Timestamp} (common : t.IsCommon) :
    t.text.toList =
      Decimal.padded 4 t.date.year.toNat ++ '-' :: (Decimal.padded 2 t.date.month ++ '-' ::
        (Decimal.padded 2 t.date.day ++ 'T' :: (Decimal.padded 2 (t.inDay / 3600) ++ ':' ::
          (Decimal.padded 2 (t.inDay % 3600 / 60) ++ ':' :: (Decimal.padded 2 (t.inDay % 60) ++
            ((fractionText t.nanos).toList ++ ['Z'])))))) := by
  have year : 0 ≤ t.date.year ∧ t.date.year ≤ 9999 :=
    ⟨by have := common.year_pos; omega, common.year_le⟩
  have noLeap : ¬t.nanos ≥ 1000000000 := Nat.not_le.mpr common.nanos_lt
  have written : t.text = String.ofList (Decimal.padded 4 t.date.year.toNat) ++ "-" ++
      twoDigits t.date.month ++ "-" ++ twoDigits t.date.day ++ "T" ++ twoDigits (t.inDay / 3600) ++
      ":" ++ twoDigits (t.inDay % 3600 / 60) ++ ":" ++ twoDigits (t.inDay % 60) ++
      fractionText t.nanos ++ "Z" := by
    rw [text, ← date, yearText, if_pos year, if_neg noLeap]
    rfl
  simp [written, twoDigits]

theorem daysInMonth_le (year : Int) (month : Nat) : Date.daysInMonth year month ≤ 31 := by
  unfold Date.daysInMonth
  split
  · split <;> decide
  · split <;> decide

theorem date_bounds (t : Timestamp) : t.date.month ≤ 12 ∧ t.date.day ≤ 31 := by
  have valid : t.date.isValid := Date.isValid_ofDays (t.seconds / 86400)
  simp only [Date.isValid, Bool.and_eq_true, decide_eq_true_eq] at valid
  exact ⟨valid.1.1.2, Nat.le_trans valid.2 (daysInMonth_le _ _)⟩

theorem readNumber_two {n : Nat} (fits : n < 100) (rest : List Char) :
    readNumber 2 (Decimal.padded 2 n ++ rest) = some (n, rest) :=
  readNumber_padded (by decide) fits rest

theorem bind_of_eq {α β : Type} {x : Option α} {a : α} {f : α → Option β} (found : x = some a) :
    x >>= f = f a := by
  rw [found]
  rfl

/-- A point in time is what its text is read as. -/
theorem ofText?_text {t : Timestamp} (common : t.IsCommon) : ofText? t.text = some t := by
  obtain ⟨month_le, day_le⟩ := date_bounds t
  have valid : t.date.isValid := Date.isValid_ofDays (t.seconds / 86400)
  have days : t.date.toDays = t.seconds / 86400 := Date.toDays_ofDays _
  have seconds : (t.inDay : Int) = t.seconds % 86400 := by
    rw [inDay]
    omega
  have small := t.inDay_lt
  have year_pos := common.year_pos
  have year_le := common.year_le
  have year (rest : List Char) :
      readYear (Decimal.padded 4 t.date.year.toNat ++ rest) = some (t.date.year, rest) := by
    have same : (t.date.year.toNat : Int) = t.date.year := by omega
    rw [readYear_padded (by omega), same]
  have fraction : readFraction ((fractionText t.nanos).toList ++ ['Z']) = some (t.nanos, ['Z']) :=
    readFraction_fractionText common.nanos_lt (by simp)
  have dash (rest : List Char) : readMark '-' ('-' :: rest) = some rest := readMark_cons rfl rest
  have colon (rest : List Char) : readMark ':' (':' :: rest) = some rest := readMark_cons rfl rest
  have offset : readOffset (['Z'].dropWhile isBlank) = some (0, []) := rfl
  rw [ofText?, toList_text common]
  -- Each part of the text is read as it was written.
  refine (bind_of_eq (year _)).trans ?_
  refine (bind_of_eq (dash _)).trans ?_
  refine (bind_of_eq (readNumber_two (by omega) _)).trans ?_
  refine (bind_of_eq (dash _)).trans ?_
  refine (bind_of_eq (readNumber_two (by omega) _)).trans ?_
  refine (bind_of_eq rfl).trans ?_
  refine (bind_of_eq (readNumber_two (by omega) _)).trans ?_
  refine (bind_of_eq (colon _)).trans ?_
  refine (bind_of_eq (readNumber_two (by omega) _)).trans ?_
  refine (bind_of_eq (colon _)).trans ?_
  refine (bind_of_eq (readNumber_two (by omega) _)).trans ?_
  refine (bind_of_eq fraction).trans ?_
  refine (bind_of_eq offset).trans ?_
  have inRange : ([] : List Char).all isBlank ∧
      (Date.mk t.date.year t.date.month t.date.day).isValid ∧ -262143 ≤ t.date.year ∧
      t.date.year ≤ 262142 ∧ t.inDay / 3600 ≤ 23 ∧ t.inDay % 3600 / 60 ≤ 59 ∧ t.inDay % 60 ≤ 60 ∧
      (0 : Int).natAbs < 86400 :=
    ⟨rfl, valid, by omega, by omega, by omega, by omega, by omega, by decide⟩
  refine (if_pos inRange).trans ?_
  have noLeap : ¬t.inDay % 60 = 60 := by omega
  have whole : t.inDay / 3600 * 3600 + t.inDay % 3600 / 60 * 60 + t.inDay % 60 = t.inDay := by omega
  have moment : t.date.toDays * 86400 + t.inDay - 0 = t.seconds := by omega
  simp only [if_neg noLeap, Nat.sub_zero, whole]
  exact congrArg (fun s => some (Timestamp.mk s t.nanos)) moment

end OpcUa.Timestamp
