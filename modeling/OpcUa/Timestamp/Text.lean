import OpcUa.Timestamp.Basic
import OpcUa.Text.Blank
import OpcUa.Text.Decimal

/-!
Points in time as text. `text` writes universal time with the fewest of 0, 3, 6 or 9 digits of
fraction that are exact. `ofText?` also reads other offsets, blanks around the numbers, and a
blank or a lower-case letter between the date and the time.
-/

namespace OpcUa.Timestamp

/-! ### Writing -/

/-- A year as four digits; a year that needs a sign has one. -/
def yearText (y : Int) : String :=
  if 0 ≤ y ∧ y ≤ 9999 then String.ofList (Text.Decimal.padded 4 y.toNat)
  else (if y < 0 then "-" else "+") ++ String.ofList (Text.Decimal.padded 4 y.natAbs)

def twoDigits (n : Nat) : String := String.ofList (Text.Decimal.padded 2 n)

def fractionText (nanos : Nat) : String :=
  if nanos = 0 then ""
  else if nanos % 1000000 = 0 then "." ++ String.ofList (Text.Decimal.padded 3 (nanos / 1000000))
  else if nanos % 1000 = 0 then "." ++ String.ofList (Text.Decimal.padded 6 (nanos / 1000))
  else "." ++ String.ofList (Text.Decimal.padded 9 nanos)

/-- The text of a point in time. A leap second is written as second 60. -/
def text (t : Timestamp) : String :=
  let date := Date.ofDays (t.seconds / 86400)
  let inDay := (t.seconds % 86400).toNat
  let leap := if t.nanos ≥ 1000000000 then 1 else 0
  yearText date.year ++ "-" ++ twoDigits date.month ++ "-" ++ twoDigits date.day ++ "T" ++
    twoDigits (inDay / 3600) ++ ":" ++ twoDigits (inDay % 3600 / 60) ++ ":" ++
    twoDigits (inDay % 60 + leap) ++ fractionText (t.nanos - leap * 1000000000) ++ "Z"

/-! ### Reading -/

def leadingDigits (most : Nat) (cs : List Char) : List Char × List Char :=
  let run := (cs.take most).takeWhile Char.isDigit
  (run, cs.drop run.length)

def readNumber (most : Nat) (cs : List Char) : Option (Nat × List Char) :=
  let (run, rest) := leadingDigits most (cs.dropWhile Text.isBlank)
  if run.isEmpty then none else some (Text.Decimal.value run, rest)

/-- Reads a year: up to four digits, or any number of them after a sign. -/
def readYear (cs : List Char) : Option (Int × List Char) :=
  match cs.dropWhile Text.isBlank with
  | '-' :: rest =>
    let (run, rest) := leadingDigits rest.length rest
    if run.isEmpty then none else some (-(Text.Decimal.value run : Int), rest)
  | '+' :: rest =>
    let (run, rest) := leadingDigits rest.length rest
    if run.isEmpty then none else some ((Text.Decimal.value run : Int), rest)
  | rest => (readNumber 4 rest).map fun (n, rest) => ((n : Int), rest)

def readMark (mark : Char) (cs : List Char) : Option (List Char) :=
  match cs.dropWhile Text.isBlank with
  | c :: rest => if c = mark then some rest else none
  | [] => none

/-- Reads a fraction of a second. Digits after the ninth are passed over. -/
def readFraction : List Char → Option (Nat × List Char)
  | '.' :: rest =>
    let run := rest.takeWhile Char.isDigit
    if run.isEmpty then none
    else
      let kept := run.take 9
      some (Text.Decimal.value kept * Nat.pow 10 (9 - kept.length), rest.dropWhile Char.isDigit)
  | cs => some (0, cs)

def readOffsetAmount (cs : List Char) : Option (Nat × List Char) :=
  match cs with
  | a :: b :: rest =>
    if a.isDigit && b.isDigit then
      match rest.dropWhile (fun c => c == ':' || Text.isBlank c) with
      | c :: d :: rest =>
        if c.isDigit && d.isDigit && c ≤ '5' then
          some (Text.Decimal.value [a, b] * 3600 + Text.Decimal.value [c, d] * 60, rest)
        else none
      | _ => none
    else none
  | _ => none

/-- Reads an offset from universal time, in seconds: `Z`, `UTC`, or hours and minutes. -/
def readOffset (cs : List Char) : Option (Int × List Char) :=
  match cs with
  | 'Z' :: rest | 'z' :: rest => some (0, rest)
  | '+' :: rest => (readOffsetAmount rest).map fun (n, rest) => ((n : Int), rest)
  | '-' :: rest | '−' :: rest => (readOffsetAmount rest).map fun (n, rest) => (-(n : Int), rest)
  | _ =>
    if (cs.take 3).map Char.toUpper = ['U', 'T', 'C'] then some (0, cs.drop 3) else none

def ofText? (s : String) : Option Timestamp := do
  let (year, cs) ← readYear s.toList
  let cs ← readMark '-' cs
  let (month, cs) ← readNumber 2 cs
  let cs ← readMark '-' cs
  let (day, cs) ← readNumber 2 cs
  let cs ← match cs with
    | c :: rest => if c = 'T' ∨ c = 't' ∨ c = ' ' then some rest else none
    | [] => none
  let (hour, cs) ← readNumber 2 cs
  let cs ← readMark ':' cs
  let (minute, cs) ← readNumber 2 cs
  let cs ← readMark ':' cs
  let (second, cs) ← readNumber 2 cs
  let (nanos, cs) ← readFraction cs
  let (offset, cs) ← readOffset (cs.dropWhile Text.isBlank)
  let date : Date := ⟨year, month, day⟩
  if cs.all Text.isBlank ∧ date.isValid ∧ -262143 ≤ year ∧ year ≤ 262142 ∧ hour ≤ 23 ∧
      minute ≤ 59 ∧ second ≤ 60 ∧ offset.natAbs < 86400 then
    let leap := if second = 60 then 1 else 0
    let inDay := hour * 3600 + minute * 60 + (second - leap)
    some ⟨date.toDays * 86400 + inDay - offset, nanos + leap * 1000000000⟩
  else none

end OpcUa.Timestamp
