import OpcUa.Duration.Basic
import OpcUa.Text.Blank
import OpcUa.Text.Decimal

/-!
Durations as sums of numbers with units, such as `1h 30m` or `2s 500ms`. `unitText` writes every
duration in the units from years down to nanoseconds; `ofUnitText` reads such sums, with blanks
anywhere between digits, a decimal fraction after a number, and several spellings of each unit.
-/

namespace OpcUa.Duration

inductive TimeUnit
  | nanosecond
  | microsecond
  | millisecond
  | second
  | minute
  | hour
  | day
  | week
  | month
  | year
deriving DecidableEq, Repr

namespace TimeUnit

/-- The unit with a given spelling. Only `M` and `m` differ by case. -/
def ofText? (s : String) : Option TimeUnit :=
  if s ∈ ["nanos", "nsec", "ns"] then some nanosecond
  else if s ∈ ["usec", "us", "µs"] then some microsecond
  else if s ∈ ["millis", "msec", "ms"] then some millisecond
  else if s ∈ ["seconds", "second", "secs", "sec", "s"] then some second
  else if s ∈ ["minutes", "minute", "min", "mins", "m"] then some minute
  else if s ∈ ["hours", "hour", "hrs", "hr", "h"] then some hour
  else if s ∈ ["days", "day", "d"] then some day
  else if s ∈ ["weeks", "week", "wks", "wk", "w"] then some week
  else if s ∈ ["months", "month", "M"] then some month
  else if s ∈ ["years", "year", "yrs", "yr", "y"] then some year
  else none

/-- The whole seconds of a unit; a month has 30.44 days and a year 365.25. -/
def seconds : TimeUnit → Nat
  | nanosecond | microsecond | millisecond => 0
  | second => 1
  | minute => 60
  | hour => 3600
  | day => 86400
  | week => 604800
  | month => 2630016
  | year => 31557600

def nanos : TimeUnit → Nat
  | nanosecond => 1
  | microsecond => 1000
  | millisecond => 1000000
  | _ => 0

/-- The grain in which a fraction of the unit is counted: nanoseconds up to the minute, whole
seconds from the hour on. A nanosecond has no fractions. -/
def fractionScale : TimeUnit → Option (Nat × Nat)
  | nanosecond => none
  | microsecond => some (0, 1000)
  | millisecond => some (0, 1000000)
  | second => some (0, 1000000000)
  | minute => some (0, 60000000000)
  | hour => some (3600, 0)
  | day => some (86400, 0)
  | week => some (604800, 0)
  | month => some (2630016, 0)
  | year => some (31557600, 0)

end TimeUnit

/-! ### Writing -/

/-- A count with the name of its unit, in the plural if the unit has one and the count is above
one; a count of zero is left out. -/
def part (count : Nat) (unit plural : String) : List String :=
  if count = 0 then []
  else if count = 1 then [Text.Decimal.ofNat count ++ unit]
  else [Text.Decimal.ofNat count ++ plural]

def parts (d : Duration) : List String :=
  let s := d.seconds.toNat
  let inYear := s % 31557600
  let inMonth := inYear % 2630016
  let inDay := inMonth % 86400
  part (s / 31557600) "year" "years" ++
  part (inYear / 2630016) "month" "months" ++
  part (inMonth / 86400) "day" "days" ++
  part (inDay / 3600) "h" "h" ++
  part (inDay % 3600 / 60) "m" "m" ++
  part (inDay % 60) "s" "s" ++
  part (d.nanos / 1000000) "ms" "ms" ++
  part (d.nanos / 1000 % 1000) "us" "us" ++
  part (d.nanos % 1000) "ns" "ns"

/-- The counts that are not zero, separated by single spaces; no time at all is `0s`. -/
def unitText (d : Duration) : String :=
  if d.isZero then "0s" else String.intercalate " " d.parts

/-! ### Reading -/

/-- Why a text is no duration. Offsets count bytes. -/
inductive TextError
  | invalidCharacter (offset : Nat)
  | numberExpected (offset : Nat)
  | unknownUnit (unit : String) (count : Nat)
  | outOfRange
  | empty
deriving DecidableEq, Repr

def TextError.message : TextError → String
  | invalidCharacter offset => "invalid character at " ++ Text.Decimal.ofNat offset
  | numberExpected offset => "expected number at " ++ Text.Decimal.ofNat offset
  | unknownUnit unit count =>
    if unit = "" then
      let n := Text.Decimal.ofNat count
      "time unit needed, for example " ++ n ++ "sec or " ++ n ++ "ms"
    else
      "unknown time unit \"" ++ unit ++ "\", supported units: ns, us/µs, ms, sec, min, hours, " ++
        "days, weeks, months, years (and few variations)"
  | outOfRange =>
    "number is too large or cannot be represented without a lack of precision " ++
      "(values below 1ns are not supported)"
  | empty => "value was empty"

def isUnitLetter (c : Char) : Bool := c.isAlpha || c == 'µ'

/-- The characters of numbers: blanks may stand between digits. -/
def isDigitOrBlank (c : Char) : Bool := c.isDigit || Text.isBlank c

def splitRun (p : Char → Bool) (cs : List Char) : List Char × List Char :=
  (cs.takeWhile p, cs.dropWhile p)

structure Fraction where
  digits : Nat
  places : Nat

def runValue (run : List Char) : Nat := Text.Decimal.value (run.filter Char.isDigit)

def readFraction (point : Nat) (cs : List Char) : Except TextError (Fraction × Nat × List Char) :=
  let (run, rest) := splitRun isDigitOrBlank cs
  let places := (run.filter Char.isDigit).length
  let offset := if run.isEmpty then point else point + 1 + Text.utf8Size run
  if places > 19 then .error .outOfRange
  else
    match rest with
    | c :: _ =>
      if isUnitLetter c && places ≠ 0 then .ok (⟨runValue run, places⟩, offset, rest)
      else .error (.invalidCharacter offset)
    | [] =>
      if places ≠ 0 then .ok (⟨runValue run, places⟩, offset, rest)
      else .error (.invalidCharacter offset)

/-- One more amount; the seconds and the nanoseconds on the way have to fit into 64 bits. -/
def plus (d : Duration) (seconds nanos : Nat) : Except TextError Duration :=
  let n := d.nanos + nanos
  let s := d.seconds.toNat + seconds + n / 1000000000
  if n < UInt64.size ∧ s < UInt64.size then
    .ok ⟨UInt64.ofNat s, n % 1000000000, Nat.mod_lt _ (by decide)⟩
  else .error .outOfRange

def Fraction.of (f : Fraction) (scale : Nat) : Except TextError Nat :=
  if f.digits * scale < UInt64.size ∧ f.digits * scale % Nat.pow 10 f.places = 0 then
    .ok (f.digits * scale / Nat.pow 10 f.places)
  else .error .outOfRange

def plusTerm (d : Duration) (count : Nat) (fraction : Option Fraction) (unit : String) :
    Except TextError Duration := do
  match TimeUnit.ofText? unit with
  | none => .error (.unknownUnit unit count)
  | some u =>
    let d ← d.plus (count * u.seconds) (count * u.nanos)
    match fraction with
    | none => .ok d
    | some f =>
      match u.fractionScale with
      | none => .error .outOfRange
      | some (s, n) => do d.plus (← f.of s) (← f.of n)

/-- What one number with its unit takes off the text. A blank that ends the unit is taken off, too;
the offset is that of the rest. -/
structure Term where
  count : Nat
  fraction : Option Fraction
  unit : String
  offset : Nat
  rest : List Char

def readTerm (offset : Nat) (cs : List Char) : Except TextError Term := do
  let (run, rest) := splitRun isDigitOrBlank cs
  let count := runValue run
  if count ≥ UInt64.size then throw .outOfRange
  let offset := offset + Text.utf8Size run
  let (fraction, offset, rest) ←
    match rest with
    | '.' :: after => do
      let (f, offset, rest) ← readFraction offset after
      pure (some f, offset, rest)
    | c :: _ =>
      if isUnitLetter c then pure (none, offset, rest) else throw (.invalidCharacter offset)
    | [] => pure (none, offset, rest)
  let (unit, after) := splitRun isUnitLetter rest
  let offset := offset + Text.utf8Size unit
  match after with
  | c :: rest =>
    if c.isDigit then pure ⟨count, fraction, String.ofList unit, offset, after⟩
    else if Text.isBlank c then
      pure ⟨count, fraction, String.ofList unit, offset + c.utf8Size, rest⟩
    else throw (.invalidCharacter offset)
  | [] => pure ⟨count, fraction, String.ofList unit, offset, []⟩

/-- Reads terms up to the end of the text and adds them to `d`. Where no number follows, the
offset of the failure is that from which one was looked for, before any blanks. Each term takes a
digit at least, so a text is never longer than the budget of its length. -/
def readTerms (budget : Nat) (d : Duration) (offset : Nat) (cs : List Char) :
    Except TextError Duration := do
  let (blank, rest) := splitRun Text.isBlank cs
  match rest with
  | [] => pure d
  | c :: _ =>
    if c.isDigit then
      match budget with
      | 0 => pure d
      | budget + 1 => do
        let t ← readTerm (offset + Text.utf8Size blank) rest
        let d ← d.plusTerm t.count t.fraction t.unit
        readTerms budget d t.offset t.rest
    else throw (.numberExpected offset)

/-- Reads a sum of numbers with units. The digit zero alone is no time at all. -/
def ofUnitText (s : String) : Except TextError Duration :=
  let cs := s.toList
  if cs = ['0'] then .ok zero
  else if cs.all Text.isBlank then .error .empty
  else readTerms cs.length zero 0 cs

end OpcUa.Duration
