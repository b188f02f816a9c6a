import OpcUa.Text.Hex
import OpcUa.Text.Printable

/-!
Texts in double quotes, with escapes for the quote, the backslash and characters that do not show.
-/

namespace OpcUa.Text.Quoted

def hexDigits (n : Nat) : List Char :=
  let digits := (Hex.fixed .lower 6 n).dropWhile (· == '0')
  if digits.isEmpty then ['0'] else digits

def byNumber (c : Char) : List Char := ['\\', 'u', '\x7b'] ++ hexDigits c.toNat ++ ['\x7d']

def escape (c : Char) : List Char :=
  if c = '"' then ['\\', '"']
  else if c = '\\' then ['\\', '\\']
  else if c = '\n' then ['\\', 'n']
  else if c = '\r' then ['\\', 'r']
  else if c = '\t' then ['\\', 't']
  else if c = '\x00' then ['\\', '0']
  else if isPrintable c then [c]
  else byNumber c

def text (s : String) : String := "\"" ++ String.ofList (s.toList.flatMap escape) ++ "\""

end OpcUa.Text.Quoted
