import OpcUa.Json.Basic
import OpcUa.Text.Hex

/-!
JSON as text, without any blanks. In strings only the quote, the backslash and the control
characters below the space are escaped.
-/

namespace OpcUa

def Literal.exponentText (e : Int) : List Char :=
  'e' :: (if e < 0 then '-' else '+') :: Text.Decimal.digits e.natAbs

def Literal.write (l : Literal) : List Char :=
  (if l.isNegative then ['-'] else []) ++ l.whole ++
    (if l.fraction.isEmpty then [] else '.' :: l.fraction) ++
    (match l.exponent with
      | none => []
      | some e => Literal.exponentText e)

namespace Json

def escape (c : Char) : List Char :=
  if c = '"' then ['\\', '"']
  else if c = '\\' then ['\\', '\\']
  else if c = '\x08' then ['\\', 'b']
  else if c = '\t' then ['\\', 't']
  else if c = '\n' then ['\\', 'n']
  else if c = '\x0c' then ['\\', 'f']
  else if c = '\r' then ['\\', 'r']
  else if c.toNat < 0x20 then '\\' :: 'u' :: Text.Hex.fixed .lower 4 c.toNat
  else [c]

def quote (s : String) : List Char := '"' :: (s.toList.flatMap escape ++ ['"'])

/-- A text in its quotes. What no string holds is written as if it were empty. -/
def writeText (t : Option String) : List Char := quote (t.getD "")

mutual

def write : Json → List Char
  | null => ['n', 'u', 'l', 'l']
  | bool true => ['t', 'r', 'u', 'e']
  | bool false => ['f', 'a', 'l', 's', 'e']
  | number l => l.write
  | text t => writeText t
  | array [] => ['[', ']']
  | array (v :: vs) => '[' :: (write v ++ writeElements vs)
  | object [] => ['\x7b', '\x7d']
  | object ((name, v) :: ms) =>
    '\x7b' :: (writeText name ++ ':' :: (write v ++ writeMembers ms))

def writeElements : List Json → List Char
  | [] => [']']
  | v :: vs => ',' :: (write v ++ writeElements vs)

def writeMembers : List (Option String × Json) → List Char
  | [] => ['\x7d']
  | (name, v) :: ms => ',' :: (writeText name ++ ':' :: (write v ++ writeMembers ms))

end

def toText (j : Json) : String := String.ofList j.write

end Json

end OpcUa
