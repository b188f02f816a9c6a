import OpcUa.Number.Literal
import OpcUa.Text.Hex

/-!
Numbers of TOML. Between two digits an underscore may stand. Whole numbers have 64 bits, in base
ten with a sign or in the bases two, eight and sixteen without one.
-/

namespace OpcUa.Toml

def moreDigits (isDigit : Char → Bool) : List Char → List Char × List Char
  | '_' :: c :: cs =>
    if isDigit c then
      let (run, rest) := moreDigits isDigit cs
      (c :: run, rest)
    else ([], '_' :: c :: cs)
  | c :: cs =>
    if isDigit c then
      let (run, rest) := moreDigits isDigit cs
      (c :: run, rest)
    else ([], c :: cs)
  | [] => ([], [])

def readRun (isDigit : Char → Bool) : List Char → Option (List Char × List Char)
  | c :: cs =>
    if isDigit c then
      let (run, rest) := moreDigits isDigit cs
      some (c :: run, rest)
    else none
  | [] => none

/-- Reads a sign, if there is one: whether it is a minus. -/
def readSign : List Char → Bool × List Char
  | '-' :: cs => (true, cs)
  | '+' :: cs => (false, cs)
  | cs => (false, cs)

/-- Reads the digits of a whole number. A zero at the start is the only digit. -/
def readWhole : List Char → Option (List Char × List Char)
  | '0' :: cs => some (['0'], cs)
  | cs => readRun Char.isDigit cs

def inRange? (n : Int) : Option Int :=
  if Int64.minValue.toInt ≤ n ∧ n ≤ Int64.maxValue.toInt then some n else none

def readBased (isDigit : Char → Bool) (base : Nat) (cs : List Char) : Option (Int × List Char) := do
  let (run, rest) ← readRun isDigit cs
  let ds ← run.mapM Text.Hex.digitValue?
  let n ← inRange? (ds.foldl (fun n d => base * n + d) 0 : Nat)
  some (n, rest)

def readInteger : List Char → Option (Int × List Char)
  | '0' :: 'x' :: cs => readBased (fun c => (Text.Hex.digitValue? c).isSome) 16 cs
  | '0' :: 'o' :: cs => readBased (fun c => '0' ≤ c && c ≤ '7') 8 cs
  | '0' :: 'b' :: cs => readBased (fun c => c == '0' || c == '1') 2 cs
  | cs => do
    let (isNegative, cs) := readSign cs
    let (run, rest) ← readWhole cs
    let n := Text.Decimal.value run
    let n ← inRange? (if isNegative then -n else n)
    some (n, rest)

def readPower (cs : List Char) : Option (Int × List Char) := do
  let (isNegative, cs) := readSign cs
  let (run, rest) ← readRun Char.isDigit cs
  let n := Text.Decimal.value run
  some (if isNegative then -n else n, rest)

def readExponent : List Char → Option (Option Int × List Char)
  | 'e' :: cs | 'E' :: cs => (readPower cs).map fun (e, rest) => (some e, rest)
  | cs => some (none, cs)

/-- Reads a number with a point or a power of ten. A positive one that is too great is none. -/
def readDecimal (cs : List Char) : Option (Nat × List Char) := do
  let (isNegative, cs) := readSign cs
  let (whole, cs) ← readWhole cs
  let (fraction, cs) ← match cs with
    | '.' :: cs => readRun Char.isDigit cs
    | cs => some ([], cs)
  let (exponent, cs) ← readExponent cs
  if fraction.isEmpty ∧ exponent = none then none
  else
    let bits := (Literal.mk isNegative whole fraction exponent).nearestDouble
    if bits = Number.Format.double.infinity then none else some (bits, cs)

def readSpecial (cs : List Char) : Option (Nat × List Char) :=
  let (isNegative, cs) := readSign cs
  match cs with
  | 'i' :: 'n' :: 'f' :: rest =>
    some (Number.Format.double.withSign isNegative Number.Format.double.infinity, rest)
  | 'n' :: 'a' :: 'n' :: rest =>
    some (Number.Format.double.withSign isNegative (Number.Format.double.infinity + 1), rest)
  | _ => none

def readFloat (cs : List Char) : Option (Nat × List Char) := readDecimal cs <|> readSpecial cs

end OpcUa.Toml
