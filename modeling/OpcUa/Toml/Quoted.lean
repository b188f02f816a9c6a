import OpcUa.Text.Hex

/-!
Strings of TOML: in double quotes with escapes, in single quotes without, and over several lines
between three quotes of either kind. A writer chooses the plainest of these forms that can hold
a string.
-/

namespace OpcUa.Toml

def isPlain (c : Char) : Bool := c == '\t' || (0x20 ≤ c.toNat && c.toNat != 0x7F)

def unescape? (c : Char) : Option Char :=
  if c = '"' ∨ c = '\\' then some c
  else if c = 'b' then some '\x08'
  else if c = 'f' then some '\x0c'
  else if c = 'n' then some '\n'
  else if c = 'r' then some '\r'
  else if c = 't' then some '\t'
  else none

def numbered? (cs : List Char) : Option Char := do
  let n ← Text.Hex.value? cs
  if n.isValidChar then some (Char.ofNat n) else none

def before (c : Char) (r : Option (List Char × List Char)) : Option (List Char × List Char) :=
  r.map fun (s, rest) => (c :: s, rest)

/-! ### Reading -/

def readBasic : List Char → Option (List Char × List Char)
  | '"' :: cs => some ([], cs)
  | '\\' :: 'u' :: a :: b :: c :: d :: cs => do
    before (← numbered? [a, b, c, d]) (readBasic cs)
  | '\\' :: 'U' :: a :: b :: c :: d :: e :: f :: g :: h :: cs => do
    before (← numbered? [a, b, c, d, e, f, g, h]) (readBasic cs)
  | '\\' :: c :: cs => do before (← unescape? c) (readBasic cs)
  | c :: cs => if isPlain c then before c (readBasic cs) else none
  | [] => none

def readLiteral : List Char → Option (List Char × List Char)
  | '\'' :: cs => some ([], cs)
  | c :: cs => if isPlain c then before c (readLiteral cs) else none
  | [] => none

/-- What follows the first of three quotes at the end of a string: up to two quotes more belong
to the string. -/
def closing (quote : Char) (cs : List Char) : Option (List Char × List Char) :=
  match cs with
  | a :: b :: rest =>
    if a = quote ∧ b = quote then
      match rest with
      | c :: d :: more =>
        if c = quote ∧ d = quote then some ([quote, quote], more)
        else if c = quote then some ([quote], d :: more)
        else some ([], rest)
      | [c] => if c = quote then some ([quote], []) else some ([], rest)
      | [] => some ([], [])
    else none
  | _ => none

inductive Place
  | text
  | lineEnd
  | swallowing

/-- Reads a string of several lines between double quotes. Every line break is read as one
character. -/
def readLines : Place → List Char → Option (List Char × List Char)
  | .lineEnd, ' ' :: cs | .lineEnd, '\t' :: cs => readLines .lineEnd cs
  | .lineEnd, '\n' :: cs | .lineEnd, '\r' :: '\n' :: cs => readLines .swallowing cs
  | .lineEnd, _ => none
  | .swallowing, ' ' :: cs | .swallowing, '\t' :: cs | .swallowing, '\n' :: cs
  | .swallowing, '\r' :: '\n' :: cs => readLines .swallowing cs
  | _, '"' :: cs =>
    match closing '"' cs with
    | some r => some r
    | none => before '"' (readLines .text cs)
  | _, '\\' :: 'u' :: a :: b :: c :: d :: cs => do
    before (← numbered? [a, b, c, d]) (readLines .text cs)
  | _, '\\' :: 'U' :: a :: b :: c :: d :: e :: f :: g :: h :: cs => do
    before (← numbered? [a, b, c, d, e, f, g, h]) (readLines .text cs)
  | _, '\\' :: c :: cs =>
    if c = ' ' ∨ c = '\t' ∨ c = '\n' ∨ c = '\r' then readLines .lineEnd (c :: cs)
    else do before (← unescape? c) (readLines .text cs)
  | _, '\r' :: '\n' :: cs | _, '\n' :: cs => before '\n' (readLines .text cs)
  | _, c :: cs => if isPlain c then before c (readLines .text cs) else none
  | _, [] => none

def readLiteralLines : List Char → Option (List Char × List Char)
  | '\'' :: cs =>
    match closing '\'' cs with
    | some r => some r
    | none => before '\'' (readLiteralLines cs)
  | '\r' :: '\n' :: cs | '\n' :: cs => before '\n' (readLiteralLines cs)
  | c :: cs => if isPlain c then before c (readLiteralLines cs) else none
  | [] => none

def skipBreak : List Char → List Char
  | '\n' :: cs | '\r' :: '\n' :: cs => cs
  | cs => cs

def readString : List Char → Option (List Char × List Char)
  | '"' :: '"' :: '"' :: cs => readLines .text (skipBreak cs)
  | '"' :: cs => readBasic cs
  | '\'' :: '\'' :: '\'' :: cs => readLiteralLines (skipBreak cs)
  | '\'' :: cs => readLiteral cs
  | _ => none

/-! ### Writing -/

def longestRun (quote : Char) : Nat → List Char → Nat
  | n, [] => n
  | n, c :: cs => if c = quote then longestRun quote (n + 1) cs else max n (longestRun quote 0 cs)

def needsEscape (c : Char) : Bool := !isPlain c && c != '\n'

def escape (isLong : Bool) (c : Char) : List Char :=
  if c = '\\' then ['\\', '\\']
  else if c = '\x08' then ['\\', 'b']
  else if c = '\t' then ['\\', 't']
  else if c = '\n' then if isLong then ['\n'] else ['\\', 'n']
  else if c = '\x0c' then ['\\', 'f']
  else if c = '\r' then ['\\', 'r']
  else if isPlain c then [c]
  else '\\' :: 'u' :: Text.Hex.fixed .upper 4 c.toNat

/-- The text between double quotes. `quotes` is how many quotes stood just before; a quote is
escaped if one more than the limit would stand together. -/
def escapeAll (isLong : Bool) (limit : Nat) : Nat → List Char → List Char
  | _, [] => []
  | quotes, c :: cs =>
    if c = '"' then
      if limit ≤ quotes then '\\' :: '"' :: escapeAll isLong limit 0 cs
      else '"' :: escapeAll isLong limit (quotes + 1) cs
    else escape isLong c ++ escapeAll isLong limit 0 cs

inductive Style
  | basic
  | literal
  | lines
  | literalLines
deriving DecidableEq, Repr

def style (cs : List Char) : Style :=
  let escapes := cs.any needsEscape
  let hasBackslash := cs.contains '\\'
  let hasBreak := cs.contains '\n'
  let doubles := longestRun '"' 0 cs
  let singles := longestRun '\'' 0 cs
  if !escapes && !hasBackslash && doubles = 0 && !hasBreak then .basic
  else if !escapes && singles = 0 && !hasBreak then .literal
  else if !escapes && !hasBackslash && doubles ≤ 2 then .lines
  else if !escapes && singles ≤ 2 then .literalLines
  else if hasBreak then .lines
  else .basic

/-- A string in its quotes. A string with a line break begins on a line of its own. -/
def writeString (cs : List Char) : List Char :=
  let start := if cs.contains '\n' then ['\n'] else []
  match style cs with
  | .basic => '"' :: (escapeAll false 0 0 cs ++ ['"'])
  | .literal => '\'' :: (cs ++ ['\''])
  | .lines => '"' :: '"' :: '"' :: (start ++ escapeAll true 2 0 cs ++ ['"', '"', '"'])
  | .literalLines => '\'' :: '\'' :: '\'' :: (start ++ cs ++ ['\'', '\'', '\''])

end OpcUa.Toml
