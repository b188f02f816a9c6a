import OpcUa.Text.Decimal
import OpcUa.Timestamp.Basic

/-!
Dates and times of TOML: a date, a time of day, or both with or without an offset. They are
checked and passed over.
-/

namespace OpcUa.Toml

def readDigits (count : Nat) (cs : List Char) : Option (Nat × List Char) :=
  let run := cs.take count
  if run.length = count ∧ run.all Char.isDigit then
    some (Text.Decimal.value run, cs.drop count)
  else none

def readBounded (most : Nat) (cs : List Char) : Option (Nat × List Char) := do
  let (n, rest) ← readDigits 2 cs
  if n ≤ most then some (n, rest) else none

def pass (c : Char) : List Char → Option (List Char)
  | d :: cs => if d = c then some cs else none
  | [] => none

def passDate (cs : List Char) : Option (List Char) := do
  let (year, cs) ← readDigits 4 cs
  let cs ← pass '-' cs
  let (month, cs) ← readDigits 2 cs
  let cs ← pass '-' cs
  let (day, cs) ← readDigits 2 cs
  if (⟨year, month, day⟩ : Date).isValid then some cs else none

def passFraction : List Char → List Char
  | '.' :: c :: cs => if c.isDigit then cs.dropWhile Char.isDigit else '.' :: c :: cs
  | cs => cs

/-- Passes over a time of day. A minute may have sixty-one seconds. -/
def passTime (cs : List Char) : Option (List Char) := do
  let (_, cs) ← readBounded 23 cs
  let cs ← pass ':' cs
  let (_, cs) ← readBounded 59 cs
  let cs ← pass ':' cs
  let (_, cs) ← readBounded 60 cs
  some (passFraction cs)

def passOffset : List Char → List Char
  | 'Z' :: cs | 'z' :: cs => cs
  | c :: cs =>
    if c = '+' ∨ c = '-' then
      (do
        let (_, cs) ← readBounded 23 cs
        let cs ← pass ':' cs
        let (_, cs) ← readBounded 59 cs
        some cs).getD (c :: cs)
    else c :: cs
  | [] => []

def passTimeOfDate : List Char → List Char
  | c :: cs =>
    if c = 'T' ∨ c = 't' ∨ c = ' ' then
      match passTime cs with
      | some rest => passOffset rest
      | none => c :: cs
    else c :: cs
  | [] => []

def passMoment (cs : List Char) : Option (List Char) :=
  (passDate cs).map passTimeOfDate <|> passTime cs

end OpcUa.Toml
