import OpcUa.Json.Basic
import OpcUa.Text.Hex

/-!
Reading JSON. Blanks may stand between the parts of a value, and nothing but blanks after it.
-/

namespace OpcUa

namespace Literal

/-- The digits at the start of a text; there has to be one. -/
def readDigits (cs : List Char) : Option (List Char × List Char) :=
  let run := cs.takeWhile Char.isDigit
  if run.isEmpty then none else some (run, cs.dropWhile Char.isDigit)

def readFraction : List Char → Option (List Char × List Char)
  | '.' :: cs => readDigits cs
  | cs => some ([], cs)

def readPower : List Char → Option (Int × List Char)
  | '-' :: cs => (readDigits cs).map fun (run, rest) => (-(Text.Decimal.value run : Int), rest)
  | '+' :: cs => (readDigits cs).map fun (run, rest) => ((Text.Decimal.value run : Int), rest)
  | cs => (readDigits cs).map fun (run, rest) => ((Text.Decimal.value run : Int), rest)

def readExponent : List Char → Option (Option Int × List Char)
  | 'e' :: cs | 'E' :: cs => (readPower cs).map fun (e, rest) => (some e, rest)
  | cs => some (none, cs)

def readSign : List Char → Bool × List Char
  | '-' :: cs => (true, cs)
  | cs => (false, cs)

/-- Reads a number. A zero at the start is the only digit before the point. -/
def read (cs : List Char) : Option (Literal × List Char) := do
  let (isNegative, cs) := readSign cs
  let (whole, cs) ← readDigits cs
  if whole.head? = some '0' ∧ whole ≠ ['0'] then none
  else
    let (fraction, cs) ← readFraction cs
    let (exponent, cs) ← readExponent cs
    some (⟨isNegative, whole, fraction, exponent⟩, cs)

end Literal

namespace Json

def isSpace (c : Char) : Bool := c == ' ' || c == '\t' || c == '\n' || c == '\r'

def skipSpace (cs : List Char) : List Char := cs.dropWhile isSpace

/-! ### Strings -/

def unescape? (c : Char) : Option Char :=
  if c = '"' ∨ c = '\\' ∨ c = '/' then some c
  else if c = 'b' then some '\x08'
  else if c = 'f' then some '\x0c'
  else if c = 'n' then some '\n'
  else if c = 'r' then some '\r'
  else if c = 't' then some '\t'
  else none

/-- Reads the body of a string and the quote at its end, as character codes: an escape by number
gives the code that it names, which may be half of a surrogate pair. -/
def readBody : List Char → Option (List Nat × List Char)
  | '"' :: cs => some ([], cs)
  | '\\' :: 'u' :: a :: b :: c :: d :: cs => do
    let n ← Text.Hex.value? [a, b, c, d]
    let (ns, rest) ← readBody cs
    some (n :: ns, rest)
  | '\\' :: c :: cs => do
    let e ← unescape? c
    let (ns, rest) ← readBody cs
    some (e.toNat :: ns, rest)
  | c :: cs =>
    if c.toNat < 0x20 then none
    else do
      let (ns, rest) ← readBody cs
      some (c.toNat :: ns, rest)
  | [] => none

def isHigh (n : Nat) : Bool := 0xD800 ≤ n && n ≤ 0xDBFF

def isLow (n : Nat) : Bool := 0xDC00 ≤ n && n ≤ 0xDFFF

/-- The characters of a list of codes; none if half of a surrogate pair stands alone. -/
def joinPairs : List Nat → Option (List Char)
  | [] => some []
  | n :: ns =>
    if isLow n then none
    else if isHigh n then
      match ns with
      | m :: ns =>
        if isLow m then
          (joinPairs ns).map
            (Char.ofNat (0x10000 + (n - 0xD800) * 0x400 + (m - 0xDC00)) :: ·)
        else none
      | [] => none
    else (joinPairs ns).map (Char.ofNat n :: ·)

def readText (cs : List Char) : Option (Option String × List Char) := do
  let (codes, rest) ← readBody cs
  some ((joinPairs codes).map String.ofList, rest)

/-! ### Values -/

def readWord (word : List Char) (value : Json) (cs : List Char) : Option (Json × List Char) :=
  if word.isPrefixOf cs then some (value, cs.drop word.length) else none

def readName (cs : List Char) : Option (Option String × List Char) :=
  match skipSpace cs with
  | '"' :: cs => do
    let (name, cs) ← readText cs
    match skipSpace cs with
    | ':' :: cs => some (name, cs)
    | _ => none
  | _ => none

mutual

/-- Reads a value. Each step into a value takes one off the budget. -/
def readValue : Nat → List Char → Option (Json × List Char)
  | 0, _ => none
  | budget + 1, cs =>
    match skipSpace cs with
    | '"' :: cs => (readText cs).map fun (t, rest) => (text t, rest)
    | '[' :: cs =>
      match skipSpace cs with
      | ']' :: rest => some (array [], rest)
      | cs => do
        let (v, cs) ← readValue budget cs
        let (vs, rest) ← readElements budget cs
        some (array (v :: vs), rest)
    | '\x7b' :: cs =>
      match skipSpace cs with
      | '\x7d' :: rest => some (object [], rest)
      | cs => do
        let (name, cs) ← readName cs
        let (v, cs) ← readValue budget cs
        let (ms, rest) ← readMembers budget cs
        some (object ((name, v) :: ms), rest)
    | 'n' :: cs => readWord ['u', 'l', 'l'] null cs
    | 't' :: cs => readWord ['r', 'u', 'e'] (bool true) cs
    | 'f' :: cs => readWord ['a', 'l', 's', 'e'] (bool false) cs
    | cs => (Literal.read cs).map fun (l, rest) => (number l, rest)

def readElements : Nat → List Char → Option (List Json × List Char)
  | 0, _ => none
  | budget + 1, cs =>
    match skipSpace cs with
    | ']' :: rest => some ([], rest)
    | ',' :: cs => do
      let (v, cs) ← readValue budget cs
      let (vs, rest) ← readElements budget cs
      some (v :: vs, rest)
    | _ => none

def readMembers : Nat → List Char → Option (List (Option String × Json) × List Char)
  | 0, _ => none
  | budget + 1, cs =>
    match skipSpace cs with
    | '\x7d' :: rest => some ([], rest)
    | ',' :: cs => do
      let (name, cs) ← readName cs
      let (v, cs) ← readValue budget cs
      let (ms, rest) ← readMembers budget cs
      some ((name, v) :: ms, rest)
    | _ => none

end

/-- The value that a text writes. Every step reads a character at least, so the length of the
text is budget enough. -/
def ofText? (s : String) : Option Json := do
  let cs := s.toList
  let (j, rest) ← readValue (cs.length + 1) cs
  if (skipSpace rest).isEmpty then some j else none

end Json

end OpcUa
