import OpcUa.Json.Reader
import OpcUa.Json.Writer

/-!
Reading the text of a value gives the value back. A value is read exactly: whatever follows it is
left, as long as it does not go on as a number would.
-/

namespace OpcUa

/-! ### Numbers -/

/-- What may be written as a number: digits, without zeros in front of the whole part. -/
structure Literal.IsSound (l : Literal) : Prop where
  digits : ∀ c ∈ l.whole, c.isDigit
  leading : l.whole = ['0'] ∨ ∃ c ds, l.whole = c :: ds ∧ c ≠ '0'
  fraction : ∀ c ∈ l.fraction, c.isDigit

namespace Literal

theorem isSound_ofInt (n : Int) : (ofInt n).IsSound where
  digits _ := Text.Decimal.isDigit_of_mem_digits
  leading := Text.Decimal.digits_cases n.natAbs
  fraction := by simp [ofInt]

theorem IsSound.whole_cons {l : Literal} (sound : l.IsSound) :
    ∃ c ds, l.whole = c :: ds ∧ c.isDigit := by
  have first : ∃ c ds, l.whole = c :: ds := by
    rcases sound.leading with zero | ⟨c, ds, written, -⟩
    · exact ⟨_, _, zero⟩
    · exact ⟨c, ds, written⟩
  obtain ⟨c, ds, written⟩ := first
  exact ⟨c, ds, written, sound.digits c (written ▸ List.mem_cons_self)⟩

/-- No character of a number stands at the start of the text. -/
def Ends (rest : List Char) : Prop :=
  ∀ c ∈ rest.head?, c.isDigit = false ∧ c ≠ '.' ∧ c ≠ 'e' ∧ c ≠ 'E'

theorem ne_of_isDigit {c d : Char} (digit : c.isDigit) (other : d.isDigit = false) : c ≠ d := by
  rintro rfl
  rw [digit] at other
  cases other

theorem readDigits_append {ds rest : List Char} (nonempty : ds ≠ []) (digits : ∀ c ∈ ds, c.isDigit)
    (stops : ∀ c ∈ rest.head?, c.isDigit = false) : readDigits (ds ++ rest) = some (ds, rest) := by
  obtain ⟨run, others⟩ := Text.Decimal.run_append digits stops
  simp [readDigits, run, others, nonempty]

theorem readPower_exponentText (e : Int) {rest : List Char}
    (stops : ∀ c ∈ rest.head?, c.isDigit = false) :
    readPower ((if e < 0 then '-' else '+') :: Text.Decimal.digits e.natAbs ++ rest) =
      some (e, rest) := by
  have power := readDigits_append (Text.Decimal.digits_ne_nil e.natAbs)
    (fun _ => Text.Decimal.isDigit_of_mem_digits) stops
  split
  all_goals
    simp only [List.cons_append, readPower, power, Option.map_some, Text.Decimal.value_digits,
      Option.some.injEq, Prod.mk.injEq, and_true]
    omega

/-- The end of a number: nothing or its power of ten. -/
def powerPart : Option Int → List Char
  | none => []
  | some e => exponentText e

def fractionPart (fraction : List Char) : List Char :=
  if fraction.isEmpty then [] else '.' :: fraction

def signPart (isNegative : Bool) : List Char := if isNegative then ['-'] else []

theorem write_eq (l : Literal) :
    l.write =
      signPart l.isNegative ++ (l.whole ++ (fractionPart l.fraction ++ powerPart l.exponent)) := by
  have power : l.write = signPart l.isNegative ++ l.whole ++ fractionPart l.fraction ++
      powerPart l.exponent := by
    rw [write]
    cases l.exponent <;> rfl
  simp only [power, List.append_assoc]

theorem readExponent_powerPart (e : Option Int) {rest : List Char} (ends : Ends rest) :
    readExponent (powerPart e ++ rest) = some (e, rest) := by
  cases e with
  | none =>
    cases rest with
    | nil => rfl
    | cons c cs => simp [powerPart, readExponent, ends c rfl]
  | some e =>
    have power := readPower_exponentText e fun c first => (ends c first).1
    rw [List.cons_append] at power
    simp [powerPart, exponentText, readExponent, power]

theorem head_powerPart (e : Option Int) {rest : List Char} (ends : Ends rest) :
    ∀ c ∈ (powerPart e ++ rest).head?, c.isDigit = false ∧ c ≠ '.' := by
  cases e with
  | none => exact fun c first => ⟨(ends c first).1, (ends c first).2.1⟩
  | some e =>
    rintro c ⟨⟩
    decide

theorem readFraction_fractionPart {fraction rest : List Char}
    (digits : ∀ c ∈ fraction, c.isDigit)
    (stops : ∀ c ∈ rest.head?, c.isDigit = false ∧ c ≠ '.') :
    readFraction (fractionPart fraction ++ rest) = some (fraction, rest) := by
  cases fraction with
  | nil =>
    cases rest with
    | nil => rfl
    | cons c cs => simp [fractionPart, readFraction, stops c rfl]
  | cons d ds => exact readDigits_append (List.cons_ne_nil d ds) digits fun c first =>
      (stops c first).1

theorem head_fractionPart (fraction : List Char) {rest : List Char}
    (stops : ∀ c ∈ rest.head?, c.isDigit = false) :
    ∀ c ∈ (fractionPart fraction ++ rest).head?, c.isDigit = false := by
  cases fraction with
  | nil => exact stops
  | cons d ds =>
    rintro c ⟨⟩
    rfl

theorem readSign_signPart (isNegative : Bool) {c : Char} (digit : c.isDigit) (cs : List Char) :
    readSign (signPart isNegative ++ c :: cs) = (isNegative, c :: cs) := by
  cases isNegative with
  | true => rfl
  | false => simp [signPart, readSign, ne_of_isDigit digit]

/-- A number is read as it was written. -/
theorem read_write {l : Literal} (sound : l.IsSound) {rest : List Char} (ends : Ends rest) :
    read (l.write ++ rest) = some (l, rest) := by
  obtain ⟨c, ds, whole, digit⟩ := sound.whole_cons
  have power := readExponent_powerPart l.exponent ends
  have afterWhole := head_powerPart l.exponent ends
  have fraction := readFraction_fractionPart sound.fraction afterWhole
  have run := readDigits_append (by simp [whole]) sound.digits
    (head_fractionPart l.fraction fun c first => (afterWhole c first).1)
  have sign := readSign_signPart l.isNegative digit
    (ds ++ (fractionPart l.fraction ++ (powerPart l.exponent ++ rest)))
  rw [← List.cons_append, ← whole] at sign
  have proper : ¬(l.whole.head? = some '0' ∧ l.whole ≠ ['0']) := by
    rintro ⟨first, long⟩
    rcases sound.leading with zero | ⟨d, es, written, nonzero⟩
    · exact long zero
    · rw [written] at first
      exact nonzero (Option.some.inj first)
  simp only [write_eq, List.append_assoc, read, sign, run, fraction, power, if_neg proper,
    Option.bind_eq_bind, Option.bind_some]

/-- A number begins with a digit or a minus sign. -/
theorem write_cons {l : Literal} (sound : l.IsSound) :
    ∃ c cs, l.write = c :: cs ∧ (c = '-' ∨ c.isDigit) := by
  obtain ⟨c, ds, whole, digit⟩ := sound.whole_cons
  rw [write_eq, whole]
  cases l.isNegative with
  | true => exact ⟨_, _, rfl, .inl rfl⟩
  | false => exact ⟨_, _, rfl, .inr digit⟩

end Literal

namespace Json

/-! ### Strings -/

/-- The shapes of a written character: a backslash and a letter, a backslash and a number, or the
character itself. -/
theorem escape_cases (c : Char) :
    (∃ e, escape c = ['\\', e] ∧ e ≠ 'u' ∧ unescape? e = some c) ∨
    (∃ w x y z, escape c = ['\\', 'u', w, x, y, z] ∧
      Text.Hex.value? [w, x, y, z] = some c.toNat) ∨
    (escape c = [c] ∧ c ≠ '"' ∧ c ≠ '\\' ∧ ¬c.toNat < 0x20) := by
  by_cases named : c ∈ ['"', '\\', '\x08', '\t', '\n', '\x0c', '\r']
  · simp only [List.mem_cons, List.not_mem_nil, or_false] at named
    rcases named with rfl | rfl | rfl | rfl | rfl | rfl | rfl
    all_goals exact .inl ⟨_, rfl, by decide, rfl⟩
  simp only [List.mem_cons, List.not_mem_nil, or_false, not_or] at named
  have other : escape c =
      if c.toNat < 0x20 then '\\' :: 'u' :: Text.Hex.fixed .lower 4 c.toNat else [c] := by
    simp [escape, named]
  by_cases control : c.toNat < 0x20
  · rw [if_pos control] at other
    have fits : c.toNat < Nat.pow 16 4 := Nat.lt_trans control (by decide)
    exact .inr (.inl ⟨_, _, _, _, other, Text.Hex.value?_fixed .lower fits⟩)
  · rw [if_neg control] at other
    exact .inr (.inr ⟨other, named.1, named.2.1, control⟩)

theorem readBody_escape (c : Char) (tail : List Char) :
    readBody (escape c ++ tail) =
      (readBody tail).map fun (codes, rest) => (c.toNat :: codes, rest) := by
  obtain ⟨e, written, notNumber, means⟩ | ⟨w, x, y, z, written, means⟩ |
    ⟨written, quote, backslash, shown⟩ := escape_cases c
  · rw [written]
    simp only [List.cons_append, List.nil_append]
    rw [readBody, means]
    · cases readBody tail <;> rfl
    · rintro _ _ _ _ _ rfl
      exact absurd rfl notNumber
  · rw [written]
    simp only [List.cons_append, List.nil_append]
    rw [readBody, means]
    cases readBody tail <;> rfl
  · rw [written]
    simp only [List.cons_append, List.nil_append]
    rw [readBody, if_neg shown]
    · cases readBody tail <;> rfl
    all_goals simp_all

theorem readBody_escaped (cs rest : List Char) :
    readBody (cs.flatMap escape ++ '"' :: rest) = some (cs.map Char.toNat, rest) := by
  induction cs with
  | nil => simp [readBody]
  | cons c cs ih =>
    rw [List.flatMap_cons, List.append_assoc, readBody_escape, ih]
    rfl

/-- No character is half of a surrogate pair. -/
theorem joinPairs_codes (cs : List Char) : joinPairs (cs.map Char.toNat) = some cs := by
  induction cs with
  | nil => rfl
  | cons c cs ih =>
    have valid : c.toNat.isValidChar := c.valid
    have whole : isLow c.toNat = false ∧ isHigh c.toNat = false := by
      simp only [Nat.isValidChar] at valid
      constructor
      · simp [isLow]
        omega
      · simp [isHigh]
        omega
    rw [List.map_cons, joinPairs.eq_def]
    simp [ih, whole]

theorem readText_escaped (s : String) (rest : List Char) :
    readText (s.toList.flatMap escape ++ '"' :: rest) = some (some s, rest) := by
  simp [readText, readBody_escaped, joinPairs_codes]

theorem readName_writeText (name : String) (rest : List Char) :
    readName (writeText (some name) ++ ':' :: rest) = some (some name, rest) := by
  simp [readName, writeText, quote, skipSpace, isSpace, readText_escaped]

/-! ### Values -/

/-- Values as forms write them: their numbers are sound, and their texts are strings. -/
inductive Sound : Json → Prop
  | null : Sound null
  | bool (b : Bool) : Sound (bool b)
  | number {l : Literal} (sound : l.IsSound) : Sound (number l)
  | text (s : String) : Sound (text (some s))
  | array {vs : List Json} (values : ∀ v ∈ vs, Sound v) : Sound (array vs)
  | object {ms : List (Option String × Json)} (names : ∀ m ∈ ms, m.1.isSome)
      (values : ∀ m ∈ ms, Sound m.2) : Sound (object ms)

/-- The text of a value is read as the value and nothing more. -/
def Reads (v : Json) : Prop :=
  ∀ budget rest, v.write.length < budget → Literal.Ends rest →
    readValue budget (v.write ++ rest) = some (v, rest)

theorem skipSpace_cons {c : Char} (shown : isSpace c = false) (cs : List Char) :
    skipSpace (c :: cs) = c :: cs := by
  simp [skipSpace, shown]

/-- Characters with which a number begins begin no other value, and are no blanks. -/
theorem starts_number {c : Char} (first : c = '-' ∨ c.isDigit) :
    isSpace c = false ∧ c ≠ ']' ∧ c ≠ '"' ∧ c ≠ '[' ∧ c ≠ '\x7b' ∧ c ≠ 'n' ∧ c ≠ 't' ∧ c ≠ 'f' := by
  rcases first with rfl | digit
  · decide
  · have other {d : Char} := Literal.ne_of_isDigit (d := d) digit
    simp [isSpace, other]

/-- The text of a value begins with neither a blank nor the end of an array. -/
theorem Sound.write_cons {v : Json} (sound : v.Sound) :
    ∃ c cs, v.write = c :: cs ∧ isSpace c = false ∧ c ≠ ']' := by
  cases sound with
  | null => exact ⟨_, _, rfl, rfl, by decide⟩
  | bool b => cases b <;> exact ⟨_, _, rfl, rfl, by decide⟩
  | number sound =>
    obtain ⟨c, cs, written, first⟩ := Literal.write_cons sound
    have other := starts_number first
    exact ⟨c, cs, written, other.1, other.2.1⟩
  | text s => exact ⟨_, _, rfl, rfl, by decide⟩
  | @array vs _ => cases vs <;> exact ⟨_, _, rfl, rfl, by decide⟩
  | @object ms _ _ => cases ms <;> exact ⟨_, _, rfl, rfl, by decide⟩

theorem reads_number {l : Literal} (sound : l.IsSound) : Reads (number l) := by
  intro budget rest enough ends
  obtain ⟨budget, rfl⟩ : ∃ b, budget = b + 1 := ⟨budget - 1, by omega⟩
  obtain ⟨c, cs, written, first⟩ := Literal.write_cons sound
  obtain ⟨shown, -, others⟩ := starts_number first
  have number := Literal.read_write sound ends
  rw [written, List.cons_append] at number
  rw [write, written, List.cons_append, readValue, skipSpace_cons shown]
  simp [others, number]

theorem ends_writeElements (vs : List Json) (rest : List Char) :
    Literal.Ends (writeElements vs ++ rest) := by
  cases vs
  all_goals
    rintro c ⟨⟩
    decide

theorem ends_writeMembers (ms : List (Option String × Json)) (rest : List Char) :
    Literal.Ends (writeMembers ms ++ rest) := by
  cases ms
  all_goals
    rintro c ⟨⟩
    decide

theorem readElements_write {vs : List Json} (values : ∀ v ∈ vs, Reads v) {budget : Nat}
    (enough : (writeElements vs).length < budget) (rest : List Char) :
    readElements budget (writeElements vs ++ rest) = some (vs, rest) := by
  induction vs generalizing budget with
  | nil =>
    obtain ⟨budget, rfl⟩ : ∃ b, budget = b + 1 := ⟨budget - 1, by omega⟩
    simp [writeElements, readElements, skipSpace, isSpace]
  | cons v vs ih =>
    obtain ⟨budget, rfl⟩ : ∃ b, budget = b + 1 := ⟨budget - 1, by omega⟩
    simp only [writeElements, List.length_cons, List.length_append] at enough
    have first := values v List.mem_cons_self budget (writeElements vs ++ rest) (by omega)
      (ends_writeElements vs rest)
    have others : readElements budget (writeElements vs ++ rest) = some (vs, rest) :=
      ih (fun w member => values w (List.mem_cons_of_mem _ member)) (by omega)
    simp [writeElements, readElements, skipSpace, isSpace, first, others]

theorem readMembers_write {ms : List (Option String × Json)} (names : ∀ m ∈ ms, m.1.isSome)
    (values : ∀ m ∈ ms, Reads m.2) {budget : Nat} (enough : (writeMembers ms).length < budget)
    (rest : List Char) : readMembers budget (writeMembers ms ++ rest) = some (ms, rest) := by
  induction ms generalizing budget with
  | nil =>
    obtain ⟨budget, rfl⟩ : ∃ b, budget = b + 1 := ⟨budget - 1, by omega⟩
    simp [writeMembers, readMembers, skipSpace, isSpace]
  | cons m ms ih =>
    obtain ⟨budget, rfl⟩ : ∃ b, budget = b + 1 := ⟨budget - 1, by omega⟩
    obtain ⟨name, v⟩ := m
    obtain ⟨name, rfl⟩ := Option.isSome_iff_exists.mp (names _ List.mem_cons_self)
    have value : Reads v := values _ List.mem_cons_self
    simp only [writeMembers, List.length_cons, List.length_append] at enough
    have first := value budget (writeMembers ms ++ rest) (by omega) (ends_writeMembers ms rest)
    have others : readMembers budget (writeMembers ms ++ rest) = some (ms, rest) :=
      ih (fun n member => names n (List.mem_cons_of_mem _ member))
        (fun n member => values n (List.mem_cons_of_mem _ member)) (by omega)
    simp [writeMembers, readMembers, readName_writeText, skipSpace, isSpace, first, others]

theorem reads_array {vs : List Json} (sound : ∀ v ∈ vs, Sound v) (values : ∀ v ∈ vs, Reads v) :
    Reads (array vs) := by
  intro budget rest enough _
  obtain ⟨budget, rfl⟩ : ∃ b, budget = b + 1 := ⟨budget - 1, by omega⟩
  cases vs with
  | nil => simp [write, readValue, skipSpace, isSpace]
  | cons v vs =>
    simp only [write, List.length_cons, List.length_append] at enough
    have first := values v List.mem_cons_self budget (writeElements vs ++ rest) (by omega)
      (ends_writeElements vs rest)
    have others : readElements budget (writeElements vs ++ rest) = some (vs, rest) :=
      readElements_write (fun w member => values w (List.mem_cons_of_mem _ member)) (by omega) rest
    obtain ⟨c, cs, written, shown, goesOn⟩ := (sound v List.mem_cons_self).write_cons
    rw [written, List.cons_append] at first
    simp only [write, written, List.cons_append, List.append_assoc]
    rw [readValue, skipSpace_cons rfl]
    simp [skipSpace_cons shown, goesOn, first, others]

theorem reads_object {ms : List (Option String × Json)} (names : ∀ m ∈ ms, m.1.isSome)
    (values : ∀ m ∈ ms, Reads m.2) : Reads (object ms) := by
  intro budget rest enough _
  obtain ⟨budget, rfl⟩ : ∃ b, budget = b + 1 := ⟨budget - 1, by omega⟩
  match ms with
  | [] => simp [write, readValue, skipSpace, isSpace]
  | (name, v) :: ms =>
    obtain ⟨name, rfl⟩ := Option.isSome_iff_exists.mp (names _ List.mem_cons_self)
    have value : Reads v := values _ List.mem_cons_self
    simp only [write, List.length_cons, List.length_append] at enough
    have first := value budget (writeMembers ms ++ rest) (by omega) (ends_writeMembers ms rest)
    have others : readMembers budget (writeMembers ms ++ rest) = some (ms, rest) :=
      readMembers_write (fun n member => names n (List.mem_cons_of_mem _ member))
        (fun n member => values n (List.mem_cons_of_mem _ member)) (by omega) rest
    have named := readName_writeText name (v.write ++ (writeMembers ms ++ rest))
    obtain ⟨more, begins⟩ : ∃ more, writeText (some name) = '"' :: more := ⟨_, rfl⟩
    rw [begins, List.cons_append] at named
    simp only [write, begins, List.cons_append, List.append_assoc]
    rw [readValue, skipSpace_cons rfl]
    simp [skipSpace, isSpace, named, first, others]

/-- Every sound value is read from its text. -/
theorem Sound.reads {v : Json} (sound : v.Sound) : Reads v := by
  induction sound with
  | null =>
    intro budget rest enough _
    obtain ⟨budget, rfl⟩ : ∃ b, budget = b + 1 := ⟨budget - 1, by omega⟩
    simp [write, readValue, skipSpace, isSpace, readWord]
  | bool b =>
    intro budget rest enough _
    obtain ⟨budget, rfl⟩ : ∃ b, budget = b + 1 := ⟨budget - 1, by omega⟩
    cases b <;> simp [write, readValue, skipSpace, isSpace, readWord]
  | number sound => exact reads_number sound
  | text s =>
    intro budget rest enough _
    obtain ⟨budget, rfl⟩ : ∃ b, budget = b + 1 := ⟨budget - 1, by omega⟩
    simp [write, writeText, quote, readValue, skipSpace, isSpace, readText_escaped]
  | array sound ih => exact reads_array sound ih
  | object names _ ih => exact reads_object names ih

/-- The text of a value is the text of that value only. -/
theorem ofText?_toText {v : Json} (sound : v.Sound) : ofText? v.toText = some v := by
  have all : readValue (v.write.length + 1) (v.write ++ []) = some (v, []) :=
    sound.reads _ [] (Nat.lt_succ_self _) (by simp [Literal.Ends])
  rw [List.append_nil] at all
  rw [ofText?, toText, String.toList_ofList]
  simp only [all, Option.bind_eq_bind, Option.bind_some]
  rfl

end Json

end OpcUa
