import OpcUa.Toml.Quoted

/-!
Reading a written string gives the string back, in whichever of the four forms it was written. What
follows the string must not begin with a quote, since quotes after the end of a string of several
lines would be counted together with it.
-/

namespace OpcUa.Toml

/-! ### One character between double quotes -/

theorem isPlain_iff {c : Char} : isPlain c ↔ c = '\t' ∨ 32 ≤ c.toNat ∧ c.toNat ≠ 127 := by
  simp [isPlain]

theorem not_break_of_plain {c : Char} (plain : isPlain c) : c ≠ '\n' ∧ c ≠ '\r' := by
  constructor <;> (rintro rfl; cases plain)

theorem plain_of_shown {c : Char} (shown : needsEscape c = false) (noBreak : c ≠ '\n') :
    isPlain c := by
  simpa [needsEscape, noBreak] using shown

theorem numbered?_fixed {c : Char} (small : c.toNat < 65536) :
    numbered? (Text.Hex.fixed .upper 4 c.toNat) = some c := by
  have valid : c.toNat.isValidChar := c.valid
  rw [numbered?, Text.Hex.value?_fixed .upper small]
  simp only [Option.bind_eq_bind, Option.bind_some, valid, if_true, Char.ofNat_toNat]

/-- The shapes of a written character: a backslash and a letter, a backslash and a number, a line
break, or the character itself. -/
theorem escape_cases (isLong : Bool) (c : Char) :
    (∃ e, escape isLong c = ['\\', e] ∧ unescape? e = some c) ∨
    (∃ w x y z, escape isLong c = ['\\', 'u', w, x, y, z] ∧ numbered? [w, x, y, z] = some c) ∨
    (isLong ∧ c = '\n' ∧ escape isLong c = ['\n']) ∨
    (isPlain c ∧ c ≠ '\\' ∧ escape isLong c = [c]) := by
  by_cases named : c ∈ ['\\', '\x08', '\t', '\x0c', '\r']
  · simp only [List.mem_cons, List.not_mem_nil, or_false] at named
    rcases named with rfl | rfl | rfl | rfl | rfl
    · exact .inl ⟨'\\', rfl, rfl⟩
    · exact .inl ⟨'b', rfl, rfl⟩
    · exact .inl ⟨'t', rfl, rfl⟩
    · exact .inl ⟨'f', rfl, rfl⟩
    · exact .inl ⟨'r', rfl, rfl⟩
  simp only [List.mem_cons, List.not_mem_nil, or_false, not_or] at named
  obtain ⟨notBackslash, h1, h2, h3, h4⟩ := named
  by_cases break_ : c = '\n'
  · subst break_
    cases isLong
    · exact .inl ⟨'n', rfl, rfl⟩
    · exact .inr (.inr (.inl ⟨rfl, rfl, rfl⟩))
  have other : escape isLong c =
      if isPlain c then [c] else '\\' :: 'u' :: Text.Hex.fixed .upper 4 c.toNat := by
    simp [escape, *]
  by_cases plain : isPlain c
  · exact .inr (.inr (.inr ⟨plain, notBackslash, by rw [other, if_pos plain]⟩))
  · have small : c.toNat < 65536 := by
      apply Decidable.byContradiction
      intro large
      exact plain (isPlain_iff.mpr (.inr (by omega)))
    rw [if_neg plain] at other
    exact .inr (.inl ⟨_, _, _, _, other, numbered?_fixed small⟩)

theorem head_escape (isLong : Bool) (c : Char) :
    ∃ d more, escape isLong c = d :: more ∧ (d = '\\' ∨ d = c ∧ needsEscape c = false) := by
  obtain ⟨e, written, -⟩ | ⟨w, x, y, z, written, -⟩ | ⟨-, rfl, written⟩ |
    ⟨plain, -, written⟩ := escape_cases isLong c
  · exact ⟨_, _, written, .inl rfl⟩
  · exact ⟨_, _, written, .inl rfl⟩
  · exact ⟨_, _, written, .inr ⟨rfl, rfl⟩⟩
  · exact ⟨_, _, written, .inr ⟨rfl, by simp [needsEscape, plain]⟩⟩

theorem head_escape_ne_quote {isLong : Bool} {c : Char} (quote : c ≠ '"') :
    ∃ d more, escape isLong c = d :: more ∧ d ≠ '"' := by
  obtain ⟨d, more, written, rfl | ⟨rfl, -⟩⟩ := head_escape isLong c
  · exact ⟨_, more, written, by decide⟩
  · exact ⟨_, more, written, quote⟩

theorem readBasic_plain {c : Char} (plain : isPlain c) (quote : c ≠ '"') (backslash : c ≠ '\\')
    (tail : List Char) : readBasic (c :: tail) = before c (readBasic tail) := by
  simp [readBasic, plain, backslash]

theorem readBasic_unescape {c e : Char} (means : unescape? e = some c) (tail : List Char) :
    readBasic ('\\' :: e :: tail) = before c (readBasic tail) := by
  have notNumber : e ≠ 'u' ∧ e ≠ 'U' := by
    constructor <;> (rintro rfl; cases means)
  simp [readBasic, notNumber, means]

theorem readBasic_escape (c : Char) (quote : c ≠ '"') (tail : List Char) :
    readBasic (escape false c ++ tail) = before c (readBasic tail) := by
  obtain ⟨e, written, means⟩ | ⟨w, x, y, z, written, means⟩ | ⟨long, -⟩ |
    ⟨plain, backslash, written⟩ := escape_cases false c
  · rw [written]
    exact readBasic_unescape means tail
  · rw [written]
    simp [readBasic, means]
  · cases long
  · rw [written]
    exact readBasic_plain plain quote backslash tail

theorem readLines_plain {c : Char} (plain : isPlain c) (quote : c ≠ '"') (backslash : c ≠ '\\')
    (tail : List Char) : readLines .text (c :: tail) = before c (readLines .text tail) := by
  simp [readLines, plain, backslash, not_break_of_plain plain]

theorem readLines_unescape {c e : Char} (means : unescape? e = some c) (tail : List Char) :
    readLines .text ('\\' :: e :: tail) = before c (readLines .text tail) := by
  have notOther : (e ≠ 'u' ∧ e ≠ 'U') ∧ ¬(e = ' ' ∨ e = '\t' ∨ e = '\n' ∨ e = '\r') := by
    refine ⟨⟨?_, ?_⟩, ?_⟩
    · rintro rfl; cases means
    · rintro rfl; cases means
    · rintro (rfl | rfl | rfl | rfl) <;> cases means
  simp [readLines, notOther, means]

theorem readLines_quote (cs : List Char) :
    readLines .text ('"' :: cs) =
      (closing '"' cs).or (before '"' (readLines .text cs)) := by
  rw [readLines]
  · cases closing '"' cs <;> rfl
  · rintro ⟨⟩

theorem readLines_escape (c : Char) (quote : c ≠ '"') (tail : List Char) :
    readLines .text (escape true c ++ tail) = before c (readLines .text tail) := by
  obtain ⟨e, written, means⟩ | ⟨w, x, y, z, written, means⟩ | ⟨-, rfl, written⟩ |
    ⟨plain, backslash, written⟩ := escape_cases true c
  · rw [written]
    exact readLines_unescape means tail
  · rw [written]
    simp [readLines, means]
  · rw [written]
    simp [readLines]
  · rw [written]
    exact readLines_plain plain quote backslash tail

/-! ### Runs of quotes -/

/-- How many quotes a text begins with. -/
def leading (quote : Char) (cs : List Char) : Nat := (cs.takeWhile (· = quote)).length

theorem leading_cons_self (quote : Char) (cs : List Char) :
    leading quote (quote :: cs) = leading quote cs + 1 := by
  simp [leading]

theorem leading_cons_ne {quote c : Char} (other : c ≠ quote) (cs : List Char) :
    leading quote (c :: cs) = 0 := by
  simp [leading, other]

theorem leading_nil {quote : Char} {rest : List Char} (ends : ∀ c ∈ rest.head?, c ≠ quote) :
    leading quote rest = 0 := by
  cases rest with
  | nil => rfl
  | cons c more => exact leading_cons_ne (ends c rfl) more

theorem not_pair {quote : Char} {text : List Char} (short : leading quote text ≤ 1) :
    ∀ more, text ≠ quote :: quote :: more := by
  rintro more rfl
  simp only [leading_cons_self] at short
  omega

theorem closing_plain {quote : Char} {rest : List Char} (ends : ∀ c ∈ rest.head?, c ≠ quote) :
    closing quote (quote :: quote :: rest) = some ([], rest) := by
  match rest with
  | [] => simp [closing]
  | [c] => simp [closing, ends c rfl]
  | c :: d :: more => simp [closing, ends c rfl]

/-- After one quote of a string of several lines with at most one more in its run: if the text goes
on to be only quotes, then this is where the string ends; otherwise it is not. -/
theorem closing_end {quote : Char} {body rest : List Char} (short : leading quote body ≤ 1)
    (ends : ∀ c ∈ rest.head?, c ≠ quote) :
    closing quote (body ++ quote :: quote :: quote :: rest) =
      if body.all (· == quote) then some (quote :: body, rest) else none := by
  have notQuote : rest = [] ∨ ∃ d more, rest = d :: more ∧ d ≠ quote := by
    cases rest with
    | nil => exact .inl rfl
    | cons d more => exact .inr ⟨d, more, rfl, ends d rfl⟩
  match body with
  | [] => obtain rfl | ⟨d, more, rfl, other⟩ := notQuote <;> simp [closing, *]
  | [c] =>
    by_cases same : c = quote
    · obtain rfl | ⟨d, more, rfl, other⟩ := notQuote <;> simp [closing, *]
    · simp [closing, same]
  | c :: d :: more =>
    have pair : ¬(c = quote ∧ d = quote) := by
      rintro ⟨rfl, rfl⟩
      exact not_pair short more rfl
    have mixed : (c :: d :: more).all (· == quote) = false := by
      apply Bool.eq_false_iff.mpr
      intro all
      simp only [List.all_cons, Bool.and_eq_true, beq_iff_eq] at all
      exact pair ⟨all.1, all.2.1⟩
    rw [mixed]
    simp [closing, pair]

theorem longestRun_ge (quote : Char) (n : Nat) (cs : List Char) :
    n + leading quote cs ≤ longestRun quote n cs := by
  induction cs generalizing n with
  | nil => simp [leading, longestRun]
  | cons c cs ih =>
    by_cases same : c = quote
    · subst same
      rw [leading_cons_self, longestRun, if_pos rfl]
      have := ih (n + 1)
      omega
    · rw [leading_cons_ne same, longestRun, if_neg same]
      omega

theorem longestRun_mono (quote : Char) (cs : List Char) {m n : Nat} (le : m ≤ n) :
    longestRun quote m cs ≤ longestRun quote n cs := by
  induction cs generalizing m n with
  | nil => exact le
  | cons c cs ih =>
    unfold longestRun
    split
    · exact ih (by omega)
    · omega

theorem longestRun_tail {quote c : Char} {cs : List Char} {n : Nat} :
    longestRun quote 0 cs ≤ longestRun quote n (c :: cs) := by
  rw [longestRun]
  split
  · exact longestRun_mono quote cs (by omega)
  · omega

theorem not_mem_of_longestRun {quote : Char} {cs : List Char} (none : longestRun quote 0 cs = 0) :
    quote ∉ cs := by
  induction cs with
  | nil => simp
  | cons c cs ih =>
    have tail : longestRun quote 0 cs ≤ longestRun quote 0 (c :: cs) := longestRun_tail
    have first := longestRun_ge quote 0 (c :: cs)
    rw [none] at tail first
    refine List.not_mem_cons_of_ne_of_not_mem ?_ (ih (by omega))
    rintro rfl
    rw [leading_cons_self] at first
    omega

theorem leading_escape {c : Char} (quote : c ≠ '"') (tail : List Char) :
    leading '"' (escape true c ++ tail) = 0 ∧ (escape true c ++ tail).all (· == '"') = false := by
  obtain ⟨d, more, written, other⟩ := head_escape_ne_quote quote
  rw [written]
  exact ⟨leading_cons_ne other _, by simp [other]⟩

/-- No more quotes stand together than the limit allows. -/
theorem leading_escapeAll (limit quotes : Nat) (cs : List Char) :
    leading '"' (escapeAll true limit quotes cs) ≤ limit - quotes := by
  induction cs generalizing quotes with
  | nil => simp [escapeAll, leading]
  | cons c cs ih =>
    unfold escapeAll
    split
    · split
      · simp [leading]
      · rw [leading_cons_self]
        have := ih (quotes + 1)
        omega
    · rw [(leading_escape ‹_› _).1]
      omega

/-- Only quotes are written for quotes alone. -/
theorem escapeAll_quotes {limit quotes : Nat} {cs : List Char}
    (all : (escapeAll true limit quotes cs).all (· == '"')) :
    escapeAll true limit quotes cs = cs := by
  induction cs generalizing quotes with
  | nil => rfl
  | cons c cs ih =>
    unfold escapeAll at all ⊢
    split at all
    · subst c
      split at all
      · simp at all
      · rw [List.all_cons, Bool.and_eq_true] at all
        rw [if_pos rfl, if_neg ‹_›, ih all.2]
    · rw [(leading_escape ‹_› _).2] at all
      cases all

/-! ### The four forms -/

theorem readBasic_escapeAll (quotes : Nat) (cs rest : List Char) :
    readBasic (escapeAll false 0 quotes cs ++ '"' :: rest) = some (cs, rest) := by
  induction cs generalizing quotes with
  | nil => simp [escapeAll, readBasic]
  | cons c cs ih =>
    unfold escapeAll
    by_cases quote : c = '"'
    · subst quote
      rw [if_pos rfl, if_pos (Nat.zero_le _), List.cons_append, List.cons_append,
        readBasic_unescape rfl, ih]
      rfl
    · rw [if_neg quote, List.append_assoc, readBasic_escape c quote, ih]
      rfl

theorem readLiteral_plain {cs : List Char} (plain : ∀ c ∈ cs, isPlain c) (quote : '\'' ∉ cs)
    (rest : List Char) : readLiteral (cs ++ '\'' :: rest) = some (cs, rest) := by
  induction cs with
  | nil => simp [readLiteral]
  | cons c cs ih =>
    obtain ⟨first, quote⟩ := List.ne_and_not_mem_of_not_mem_cons quote
    have tail := ih (fun d member => plain d (List.mem_cons_of_mem _ member)) quote
    simp [readLiteral, plain c List.mem_cons_self, Ne.symm first, tail, before]

theorem readLines_escapeAll (quotes : Nat) (cs : List Char) {rest : List Char}
    (ends : ∀ c ∈ rest.head?, c ≠ '"') :
    readLines .text (escapeAll true 2 quotes cs ++ '"' :: '"' :: '"' :: rest) = some (cs, rest) := by
  induction cs generalizing quotes with
  | nil => simp [escapeAll, readLines_quote, closing_plain ends]
  | cons c cs ih =>
    unfold escapeAll
    by_cases quote : c = '"'
    · subst quote
      rw [if_pos rfl]
      split
      · rw [List.cons_append, List.cons_append, readLines_unescape rfl, ih]
        rfl
      · have short : leading '"' (escapeAll true 2 (quotes + 1) cs) ≤ 1 := by
          have := leading_escapeAll 2 (quotes + 1) cs
          omega
        rw [List.cons_append, readLines_quote, closing_end short ends]
        -- Either only quotes are left, and the string ends with them, or this one does not end it.
        split
        next all => rw [escapeAll_quotes all, Option.some_or]
        next => rw [ih, Option.none_or, before, Option.map_some]
    · rw [if_neg quote, List.append_assoc, readLines_escape c quote, ih]
      rfl

theorem readLiteralLines_quote (cs : List Char) :
    readLiteralLines ('\'' :: cs) =
      (closing '\'' cs).or (before '\'' (readLiteralLines cs)) := by
  rw [readLiteralLines]
  cases closing '\'' cs <;> rfl

theorem readLiteralLines_char {c : Char} (shown : needsEscape c = false) (quote : c ≠ '\'')
    (cs : List Char) : readLiteralLines (c :: cs) = before c (readLiteralLines cs) := by
  by_cases break_ : c = '\n'
  · subst break_
    rfl
  · have plain := plain_of_shown shown break_
    rw [readLiteralLines, if_pos plain]
    · exact quote
    · exact fun _ same => absurd same (not_break_of_plain plain).2
    · exact break_

theorem readLiteralLines_plain {cs rest : List Char} (shown : ∀ c ∈ cs, needsEscape c = false)
    (runs : longestRun '\'' 0 cs ≤ 2) (ends : ∀ c ∈ rest.head?, c ≠ '\'') :
    readLiteralLines (cs ++ '\'' :: '\'' :: '\'' :: rest) = some (cs, rest) := by
  induction cs with
  | nil => simp [readLiteralLines_quote, closing_plain ends]
  | cons c cs ih =>
    have tail := ih (fun d member => shown d (List.mem_cons_of_mem _ member))
      (Nat.le_trans longestRun_tail runs)
    by_cases quote : c = '\''
    · subst quote
      have short : leading '\'' cs ≤ 1 := by
        have := longestRun_ge '\'' 0 ('\'' :: cs)
        rw [leading_cons_self] at this
        omega
      rw [List.cons_append, readLiteralLines_quote, closing_end short ends, tail]
      split <;> rfl
    · rw [List.cons_append, readLiteralLines_char (shown c List.mem_cons_self) quote, tail]
      rfl

/-! ### Which form is chosen -/

theorem style_literal {cs : List Char} (chosen : style cs = .literal) :
    (∀ c ∈ cs, isPlain c) ∧ '\'' ∉ cs ∧ cs ≠ [] := by
  unfold style at chosen
  dsimp only at chosen
  split at chosen
  · cases chosen
  next notBasic =>
    split at chosen
    next literal =>
      simp only [Bool.and_eq_true, Bool.not_eq_true', List.any_eq_false, decide_eq_true_eq] at literal
      obtain ⟨⟨shown, singles⟩, breaks⟩ := literal
      refine ⟨fun c member => ?_, not_mem_of_longestRun singles, ?_⟩
      · have break_ : c ≠ '\n' := by
          rintro rfl
          simp [member] at breaks
        simpa [needsEscape, break_] using shown c member
      · rintro rfl
        exact notBasic rfl
    next =>
      split at chosen
      · cases chosen
      · split at chosen
        · cases chosen
        · split at chosen <;> cases chosen

theorem style_literalLines {cs : List Char} (chosen : style cs = .literalLines) :
    (∀ c ∈ cs, needsEscape c = false) ∧ longestRun '\'' 0 cs ≤ 2 := by
  unfold style at chosen
  dsimp only at chosen
  split at chosen
  · cases chosen
  split at chosen
  · cases chosen
  split at chosen
  · cases chosen
  split at chosen
  next lines => simpa using lines
  next => split at chosen <;> cases chosen

/-- Reading passes over the line break that is put in front of a string which holds one, and over
nothing of a string which holds none. -/
theorem skipBreak_start {cs text : List Char}
    (starts : '\n' ∉ cs → ∀ c ∈ text.head?, c ≠ '\n' ∧ c ≠ '\r') :
    skipBreak ((if cs.contains '\n' then ['\n'] else []) ++ text) = text := by
  by_cases break_ : '\n' ∈ cs
  · simp [break_, skipBreak]
  · rw [List.contains_eq_mem, decide_eq_false break_]
    have starts := starts break_
    match text with
    | [] => rfl
    | c :: more =>
      have first := starts c rfl
      simp [skipBreak, first]

theorem head_escapeAll {quotes : Nat} {cs rest : List Char} (noBreak : '\n' ∉ cs) :
    ∀ c ∈ (escapeAll true 2 quotes cs ++ '"' :: rest).head?, c ≠ '\n' ∧ c ≠ '\r' := by
  cases cs with
  | nil => simp [escapeAll]
  | cons c cs =>
    unfold escapeAll
    split
    · split <;> simp
    · obtain ⟨d, more, written, rfl | ⟨rfl, shown⟩⟩ := head_escape true c
      · simp [written]
      · have plain := plain_of_shown shown (Ne.symm (List.ne_of_not_mem_cons noBreak))
        simp [written, not_break_of_plain plain]

theorem readString_basic {text : List Char} (short : leading '"' text ≤ 1) :
    readString ('"' :: text) = readBasic text := by
  rw [readString]
  exact not_pair short

theorem readString_literal {text : List Char} (short : leading '\'' text ≤ 1) :
    readString ('\'' :: text) = readLiteral text := by
  rw [readString]
  exact not_pair short

/-- After the first quote of a string on one line there are not two more of them. -/
theorem leading_basic (cs : List Char) {rest : List Char} (ends : ∀ c ∈ rest.head?, c ≠ '"') :
    leading '"' (escapeAll false 0 0 cs ++ '"' :: rest) ≤ 1 := by
  cases cs with
  | nil => simp [escapeAll, leading_cons_self, leading_nil ends]
  | cons c cs =>
    unfold escapeAll
    by_cases quote : c = '"'
    · simp [quote, leading]
    · obtain ⟨d, more, written, other⟩ := head_escape_ne_quote quote
      rw [if_neg quote, written, List.cons_append, List.cons_append, leading_cons_ne other]
      exact Nat.zero_le 1

/-- Every string is what its written form is read as. -/
theorem readString_writeString (cs : List Char) {rest : List Char}
    (ends : ∀ c ∈ rest.head?, c ≠ '"' ∧ c ≠ '\'') :
    readString (writeString cs ++ rest) = some (cs, rest) := by
  have double : ∀ c ∈ rest.head?, c ≠ '"' := fun c first => (ends c first).1
  have single : ∀ c ∈ rest.head?, c ≠ '\'' := fun c first => (ends c first).2
  unfold writeString
  cases chosen : style cs with
  | basic =>
    have text := readBasic_escapeAll 0 cs rest
    simp only [List.cons_append, List.append_assoc, List.nil_append]
    rw [readString_basic (leading_basic cs double), text]
  | literal =>
    obtain ⟨plain, quote, nonempty⟩ := style_literal chosen
    have text := readLiteral_plain plain quote rest
    have short : leading '\'' (cs ++ '\'' :: rest) ≤ 1 := by
      obtain ⟨c, more, rfl⟩ := List.exists_cons_of_ne_nil nonempty
      rw [List.cons_append, leading_cons_ne (Ne.symm (List.ne_of_not_mem_cons quote))]
      exact Nat.zero_le 1
    simp only [List.cons_append, List.append_assoc, List.nil_append]
    rw [readString_literal short, text]
  | lines =>
    have text := readLines_escapeAll 0 cs double
    simp only [List.cons_append, List.append_assoc, List.nil_append, readString]
    rw [skipBreak_start head_escapeAll, text]
  | literalLines =>
    obtain ⟨shown, runs⟩ := style_literalLines chosen
    have text := readLiteralLines_plain shown runs single
    simp only [List.cons_append, List.append_assoc, List.nil_append, readString]
    rw [skipBreak_start _, text]
    intro noBreak c first
    cases cs with
    | nil => cases chosen
    | cons d more =>
      obtain rfl : d = c := by simpa using first
      exact not_break_of_plain (plain_of_shown (shown d List.mem_cons_self)
        (Ne.symm (List.ne_of_not_mem_cons noBreak)))

end OpcUa.Toml
