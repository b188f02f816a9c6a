import OpcUa.Proofs.Toml.Strings
import OpcUa.Toml.Reader

/-!
Documents whose lines each hold a bare key and a value that is a string or a whole number. Reading
such a document gives the members that it was written for, in order.
-/

namespace OpcUa.Toml

open Text

/-! ### Whole numbers -/

theorem ne_of_holds {p : Char → Bool} {c d : Char} (holds : p c) (fails : p d = false) : c ≠ d := by
  rintro rfl
  rw [fails] at holds
  cases holds

theorem moreDigits_line {ds : List Char} (digits : ∀ c ∈ ds, c.isDigit) (rest : List Char) :
    moreDigits Char.isDigit (ds ++ '\n' :: rest) = (ds, '\n' :: rest) := by
  induction ds with
  | nil => rfl
  | cons c ds ih =>
    have digit := digits c List.mem_cons_self
    have tail := ih fun d member => digits d (List.mem_cons_of_mem _ member)
    rw [List.cons_append, moreDigits, if_pos digit, tail]
    exact fun _ _ same => absurd same (ne_of_holds digit rfl)

theorem readWhole_line (n : Nat) (rest : List Char) :
    readWhole (Decimal.digits n ++ '\n' :: rest) = some (Decimal.digits n, '\n' :: rest) := by
  have digits : ∀ c ∈ Decimal.digits n, c.isDigit := fun _ => Decimal.isDigit_of_mem_digits
  obtain zero | ⟨c, ds, written, nonzero⟩ := Decimal.digits_cases n
  · rw [zero]
    rfl
  · rw [written] at digits ⊢
    have tail := moreDigits_line (fun d member => digits d (List.mem_cons_of_mem _ member)) rest
    rw [List.cons_append, readWhole, readRun, if_pos (digits c List.mem_cons_self), tail]
    exact fun _ same => absurd (List.cons.inj same).1 nonzero

/-- Where a date or a time goes on after some digits, a whole number does not. -/
theorem pass_line {count value : Nat} {ds rest left : List Char} {c : Char}
    (digits : ∀ d ∈ ds, d.isDigit) (other : c.isDigit = false) (notBreak : c ≠ '\n')
    (read : readDigits count (ds ++ '\n' :: rest) = some (value, left)) : pass c left = none := by
  unfold readDigits at read
  dsimp only at read
  split at read
  next run =>
    obtain ⟨-, run⟩ := run
    cases read
    by_cases within : count ≤ ds.length
    · rw [List.drop_append_of_le_length within]
      cases more : ds.drop count with
      | nil => simp [pass, notBreak.symm]
      | cons d more' =>
        have digit := digits d (List.mem_of_mem_drop (more ▸ List.mem_cons_self))
        simp [pass, ne_of_holds digit other]
    · -- The digits taken would include the line break.
      have taken : '\n' ∈ (ds ++ '\n' :: rest).take count := by
        rw [List.take_append, List.mem_append]
        obtain ⟨k, more⟩ : ∃ k, count - ds.length = k + 1 := ⟨count - ds.length - 1, by omega⟩
        rw [more, List.take_succ_cons]
        exact .inr List.mem_cons_self
      exact absurd (List.all_eq_true.mp run _ taken) (by decide)
  next => cases read

theorem passMoment_line {ds : List Char} (digits : ∀ d ∈ ds, d.isDigit) (rest : List Char) :
    passMoment (ds ++ '\n' :: rest) = none := by
  have date : passDate (ds ++ '\n' :: rest) = none := by
    unfold passDate
    cases read : readDigits 4 (ds ++ '\n' :: rest) with
    | none => rfl
    | some found => simp [pass_line digits (by decide : '-'.isDigit = false) (by decide) read]
  have time : passTime (ds ++ '\n' :: rest) = none := by
    unfold passTime readBounded
    cases read : readDigits 2 (ds ++ '\n' :: rest) with
    | none => rfl
    | some found =>
      simp [pass_line digits (by decide : ':'.isDigit = false) (by decide) read]
  rw [passMoment, date, time]
  rfl

theorem readSign_digit {c : Char} (digit : c.isDigit) (cs : List Char) :
    readSign (c :: cs) = (false, c :: cs) := by
  rw [readSign]
  all_goals exact fun _ same => ne_of_holds digit rfl (List.cons.inj same).1

theorem readFloat_line (n : Nat) (rest : List Char) :
    readFloat (Decimal.digits n ++ '\n' :: rest) = none := by
  have whole := readWhole_line n rest
  obtain ⟨c, ds, written, digit⟩ := Decimal.digits_cons n
  rw [written, List.cons_append] at whole ⊢
  have decimal : readDecimal (c :: (ds ++ '\n' :: rest)) = none := by
    simp [readDecimal, readSign_digit digit, whole, readExponent]
  have special : readSpecial (c :: (ds ++ '\n' :: rest)) = none := by
    simp [readSpecial, readSign_digit digit, ne_of_holds digit (d := 'i') rfl,
      ne_of_holds digit (d := 'n') rfl]
  rw [readFloat, decimal, special]
  rfl

theorem readInteger_line {n : Nat} (fits : (n : Int) ≤ Int64.maxValue.toInt) (rest : List Char) :
    readInteger (Decimal.digits n ++ '\n' :: rest) = some ((n : Int), '\n' :: rest) := by
  have whole := readWhole_line n rest
  have value := Decimal.value_digits n
  have inRange : inRange? n = some (n : Int) :=
    if_pos ⟨Int.le_trans (by decide) (Int.natCast_nonneg n), fits⟩
  obtain zero | ⟨c, ds, written, nonzero⟩ := Decimal.digits_cases n
  · obtain rfl : n = 0 := by
      rw [← value, zero]
      rfl
    rw [zero]
    rfl
  · have digit : c.isDigit := Decimal.isDigit_of_mem_digits (written ▸ List.mem_cons_self)
    rw [written] at value
    rw [written, List.cons_append] at whole ⊢
    rw [readInteger]
    · simp [readSign_digit digit, whole, value, inRange]
    all_goals exact fun _ same => absurd (List.cons.inj same).1 nonzero

theorem readSimple_digits {n : Nat} (fits : (n : Int) ≤ Int64.maxValue.toInt) (rest : List Char) :
    readSimple (Decimal.digits n ++ '\n' :: rest) = some (.integer n, '\n' :: rest) := by
  have moment := passMoment_line (fun _ => Decimal.isDigit_of_mem_digits (n := n)) rest
  have float := readFloat_line n rest
  have integer := readInteger_line fits rest
  obtain ⟨c, ds, written, digit⟩ := Decimal.digits_cons n
  rw [written, List.cons_append] at moment float integer ⊢
  rw [readSimple]
  · simp [moment, float, integer]
  all_goals exact fun _ same => ne_of_holds digit rfl (List.cons.inj same).1

/-! ### Lines -/

/-- A text that is read as a value when a line break follows it, and in front of which blanks are
passed over. -/
structure Writes (text : List Char) (v : Value) : Prop where
  starts : ∃ c more, text = c :: more ∧ isBlank c = false ∧ c ≠ '[' ∧ c ≠ '\x7b'
  reads : ∀ rest, readSimple (text ++ '\n' :: rest) = some (v, '\n' :: rest)

theorem readSimple_quoted {c : Char} (quote : c = '"' ∨ c = '\'') (cs : List Char) :
    readSimple (c :: cs) =
      (readString (c :: cs)).map fun (s, rest) => (.text (String.ofList s), rest) := by
  rcases quote with rfl | rfl <;> rfl

theorem writeString_cons (cs : List Char) :
    ∃ c more, writeString cs = c :: more ∧ (c = '"' ∨ c = '\'') := by
  unfold writeString
  cases style cs
  all_goals exact ⟨_, _, rfl, by decide⟩

theorem writes_string (s : String) : Writes (writeString s.toList) (.text s) where
  starts := by
    obtain ⟨c, more, written, quote⟩ := writeString_cons s.toList
    refine ⟨c, more, written, ?_⟩
    rcases quote with rfl | rfl <;> decide
  reads rest := by
    have read : readString (writeString s.toList ++ '\n' :: rest) = some (s.toList, '\n' :: rest) :=
      readString_writeString s.toList (by simp)
    obtain ⟨c, more, written, quote⟩ := writeString_cons s.toList
    rw [written, List.cons_append] at read ⊢
    rw [readSimple_quoted quote, read]
    simp only [Option.map_some, String.ofList_toList]

theorem writes_integer {n : Nat} (fits : (n : Int) ≤ Int64.maxValue.toInt) :
    Writes (Decimal.digits n) (.integer n) where
  starts := by
    obtain ⟨c, ds, written, digit⟩ := Decimal.digits_cons n
    have blank : isBlank c = false := by
      simp [isBlank, ne_of_holds digit (d := ' ') rfl, ne_of_holds digit (d := '\t') rfl]
    exact ⟨c, ds, written, blank, ne_of_holds digit rfl, ne_of_holds digit rfl⟩
  reads := readSimple_digits fits

/-- A line of a document: a key, and a text with the value that it is written for. -/
structure Entry where
  key : String
  text : List Char
  value : Value

def Entry.line (e : Entry) : List Char := e.key.toList ++ [' ', '=', ' '] ++ e.text ++ ['\n']

def Entry.member (e : Entry) : String × Value := (e.key, e.value)

structure Entry.IsSound (e : Entry) : Prop where
  nonempty : e.key.toList ≠ []
  bare : ∀ c ∈ e.key.toList, isBare c
  writes : Writes e.text e.value

theorem skipBlanks_of_head {cs : List Char} (starts : ∀ c ∈ cs.head?, isBlank c = false) :
    skipBlanks cs = cs := by
  cases cs with
  | nil => rfl
  | cons c cs => simp [skipBlanks, starts c rfl]

theorem not_blank_of_bare {c : Char} (bare : isBare c) : isBlank c = false := by
  simp [isBlank, ne_of_holds bare (d := ' ') rfl, ne_of_holds bare (d := '\t') rfl]

theorem cons_ne_of_bare {key : List Char} (nonempty : key ≠ []) (bare : ∀ c ∈ key, isBare c)
    {c : Char} (other : isBare c = false) (tail more : List Char) : key ++ tail ≠ c :: more := by
  obtain ⟨d, k, rfl⟩ := List.exists_cons_of_ne_nil nonempty
  exact fun same => ne_of_holds (bare d List.mem_cons_self) other (List.cons.inj same).1

theorem readPart_bare {key : List Char} (nonempty : key ≠ []) (bare : ∀ c ∈ key, isBare c)
    (tail : List Char) : readPart (key ++ ' ' :: tail) = some (key, ' ' :: tail) := by
  have taken : (key ++ ' ' :: tail).takeWhile isBare = key := by
    simp [List.takeWhile_append_of_pos bare, show isBare ' ' = false from rfl]
  have dropped : (key ++ ' ' :: tail).dropWhile isBare = ' ' :: tail := by
    simp [List.dropWhile_append_of_pos bare, show isBare ' ' = false from rfl]
  rw [readPart]
  · simp [taken, dropped, nonempty]
  all_goals exact cons_ne_of_bare nonempty bare rfl _

theorem skipBlanks_bare {key : List Char} (nonempty : key ≠ []) (bare : ∀ c ∈ key, isBare c)
    (tail : List Char) : skipBlanks (key ++ tail) = key ++ tail := by
  obtain ⟨c, k, rfl⟩ := List.exists_cons_of_ne_nil nonempty
  apply skipBlanks_of_head
  simpa using not_blank_of_bare (bare c List.mem_cons_self)

theorem readKeyEquals_bare {key : List Char} (nonempty : key ≠ []) (bare : ∀ c ∈ key, isBare c)
    {tail : List Char} (starts : ∀ c ∈ tail.head?, isBlank c = false) :
    readKeyEquals (key ++ ' ' :: '=' :: ' ' :: tail) = some ([], String.ofList key, tail) := by
  have parts : readKey (key ++ ' ' :: '=' :: ' ' :: tail) =
      some ([], String.ofList key, '=' :: ' ' :: tail) := by
    have equals : skipBlanks (' ' :: '=' :: ' ' :: tail) = '=' :: ' ' :: tail := rfl
    rw [readKey, depthLimit, readParts, skipBlanks_bare nonempty bare, readPart_bare nonempty bare]
    simp [equals]
  have value : skipBlanks (' ' :: tail) = tail := skipBlanks_of_head starts
  simp [readKeyEquals, parts, value]

theorem readValue_line {text : List Char} {v : Value} (writes : Writes text v) (budget : Nat)
    (rest : List Char) :
    readValue depthLimit (budget + 1) (text ++ '\n' :: rest) = some (v, '\n' :: rest) := by
  obtain ⟨⟨c, more, rfl, -, array, table⟩, reads⟩ := writes
  rw [readValue, reads]
  · exact fun _ _ _ same => absurd (List.cons.inj same).1 array
  · exact fun _ _ _ same => absurd (List.cons.inj same).1 table

theorem putAt_new {ms : Members} {key : String} (new : ms.lookup key = none) (v : Value) :
    ms.putAt [] [] key v = some (ms ++ [(key, v)]) := by
  simp [Members.putAt, Members.put, Members.change, new]

theorem readDocument_line {e : Entry} (sound : e.IsSound) {ms : Members}
    (new : ms.lookup e.key = none) (budget : Nat) (rest : List Char) :
    readDocument (budget + 1) [] ms (e.line ++ rest) =
      readDocument budget [] (ms ++ [e.member]) rest := by
  obtain ⟨nonempty, bare, writes⟩ := sound
  have starts : ∀ c ∈ (e.text ++ '\n' :: rest).head?, isBlank c = false := by
    obtain ⟨c, more, written, blank, -⟩ := writes.starts
    simpa [written] using blank
  have line : e.line ++ rest = e.key.toList ++ ' ' :: '=' :: ' ' :: (e.text ++ '\n' :: rest) := by
    simp [Entry.line]
  have key := readKeyEquals_bare nonempty bare starts
  have unblank := skipBlanks_bare nonempty bare (' ' :: '=' :: ' ' :: (e.text ++ '\n' :: rest))
  have value := readValue_line writes (e.text ++ '\n' :: rest).length rest
  have ended : endLine ('\n' :: rest) = some rest := rfl
  have other : ∀ c more, isBare c = false →
      e.key.toList ++ ' ' :: '=' :: ' ' :: (e.text ++ '\n' :: rest) ≠ c :: more :=
    fun _ more notBare => cons_ne_of_bare nonempty bare notBare _ more
  rw [line, readDocument, unblank]
  split
  next none => simp at none
  next same => exact absurd same (other _ _ rfl)
  next same => exact absurd same (other _ _ rfl)
  next same => exact absurd same (other _ _ rfl)
  next same => exact absurd same (other _ _ rfl)
  next same => exact absurd same (other _ _ rfl)
  next =>
    simp only [key, value, ended, String.ofList_toList, Option.bind_eq_bind, Option.bind_some,
      putAt_new new, Entry.member]

/-- The members of a document are those that its lines are written for. -/
theorem readDocument_lines {es : List Entry} (sound : ∀ e ∈ es, e.IsSound) {ms : Members}
    (new : ∀ e ∈ es, ms.lookup e.key = none) (distinct : (es.map Entry.key).Nodup) {budget : Nat}
    (enough : es.length < budget) :
    readDocument budget [] ms (es.flatMap Entry.line) = some (ms ++ es.map Entry.member) := by
  induction es generalizing ms budget with
  | nil =>
    obtain ⟨budget, rfl⟩ : ∃ b, budget = b + 1 := ⟨budget - 1, by simp at enough; omega⟩
    simp [readDocument, skipBlanks]
  | cons e es ih =>
    obtain ⟨budget, rfl⟩ : ∃ b, budget = b + 1 := ⟨budget - 1, by simp at enough; omega⟩
    rw [List.map_cons, List.nodup_cons] at distinct
    have stillNew : ∀ e' ∈ es, (ms ++ [e.member]).lookup e'.key = none := by
      intro e' member
      have differ : e'.key ≠ e.key := by
        intro same
        exact distinct.1 (same ▸ List.mem_map_of_mem member)
      rw [List.lookup_append, new e' (List.mem_cons_of_mem _ member)]
      simp [Entry.member, List.lookup_cons, beq_eq_false_iff_ne.mpr differ]
    have tail := ih (fun e' member => sound e' (List.mem_cons_of_mem _ member)) stillNew distinct.2
      (Nat.lt_of_succ_lt_succ enough)
    rw [List.flatMap_cons, readDocument_line (sound e List.mem_cons_self)
      (new e List.mem_cons_self), tail]
    simp

theorem length_le_lines (es : List Entry) : es.length ≤ (es.flatMap Entry.line).length := by
  induction es with
  | nil => simp
  | cons e es ih =>
    have one : 1 ≤ e.line.length := by
      simp only [Entry.line, List.length_append, List.length_cons]
      omega
    rw [List.flatMap_cons, List.length_append, List.length_cons]
    omega

theorem head_lines {es : List Entry} (sound : ∀ e ∈ es, e.IsSound) :
    ∀ c ∈ (es.flatMap Entry.line).head?, isBare c := by
  cases es with
  | nil => simp
  | cons e es =>
    have first := sound e List.mem_cons_self
    obtain ⟨c, k, written⟩ := List.exists_cons_of_ne_nil first.nonempty
    have bare := first.bare c (written ▸ List.mem_cons_self)
    simpa [Entry.line, written] using bare

theorem ofText?_lines {es : List Entry} (sound : ∀ e ∈ es, e.IsSound)
    (distinct : (es.map Entry.key).Nodup) :
    ofText? (String.ofList (es.flatMap Entry.line)) = some (es.map Entry.member) := by
  have document : readDocument ((es.flatMap Entry.line).length + 1) [] [] (es.flatMap Entry.line) =
      some (es.map Entry.member) :=
    readDocument_lines sound (by simp) distinct (Nat.lt_succ_of_le (length_le_lines es))
  have bare := head_lines sound
  rw [ofText?, String.toList_ofList]
  cases written : es.flatMap Entry.line with
  | nil =>
    rw [written] at document
    exact document
  | cons c cs =>
    rw [written] at document bare
    have noMark : c ≠ '\ufeff' := ne_of_holds (bare c rfl) rfl
    dsimp only
    rw [if_neg noMark]
    exact document

end OpcUa.Toml
