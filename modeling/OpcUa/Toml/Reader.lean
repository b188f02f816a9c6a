import OpcUa.Toml.Moment
import OpcUa.Toml.Number
import OpcUa.Toml.Quoted
import OpcUa.Toml.Value

/-!
Reading documents of TOML: lines with a key and a value, headers of tables, and comments.
-/

namespace OpcUa.Toml

def isBlank (c : Char) : Bool := c == ' ' || c == '\t'

def skipBlanks (cs : List Char) : List Char := cs.dropWhile isBlank

/-- What follows the line that a text is in: blanks, perhaps a comment, and a line break or the
end of the text. -/
def endLine (cs : List Char) : Option (List Char) :=
  let rest :=
    match skipBlanks cs with
    | '#' :: cs => cs.dropWhile isPlain
    | cs => cs
  match rest with
  | [] => some []
  | '\n' :: cs | '\r' :: '\n' :: cs => some cs
  | _ => none

def skipTrivia : (isComment : Bool) → List Char → Option (List Char)
  | _, '\n' :: cs | _, '\r' :: '\n' :: cs => skipTrivia false cs
  | true, c :: cs => if isPlain c then skipTrivia true cs else none
  | true, [] => none
  | false, ' ' :: cs | false, '\t' :: cs => skipTrivia false cs
  | false, '#' :: cs => skipTrivia true cs
  | false, cs => some cs

/-! ### Keys -/

def isBare (c : Char) : Bool := c.isAlphanum || c == '-' || c == '_'

def readPart (cs : List Char) : Option (List Char × List Char) :=
  match cs with
  | '"' :: cs => readBasic cs
  | '\'' :: cs => readLiteral cs
  | cs =>
    let run := cs.takeWhile isBare
    if run.isEmpty then none else some (run, cs.dropWhile isBare)

def depthLimit : Nat := 79

/-- Reads a key: parts with dots between them, and the blanks around them. -/
def readParts : Nat → List Char → Option (List String × String × List Char)
  | 0, _ => none
  | budget + 1, cs => do
    let (part, cs) ← readPart (skipBlanks cs)
    match skipBlanks cs with
    | '.' :: cs => do
      let (path, last, rest) ← readParts budget cs
      some (String.ofList part :: path, last, rest)
    | cs => some ([], String.ofList part, cs)

/-- Reads a key with no more parts than allowed: the path, the last part, and what follows. -/
def readKey (cs : List Char) : Option (List String × String × List Char) := readParts depthLimit cs

def readKeyEquals (cs : List Char) : Option (List String × String × List Char) := do
  let (path, key, cs) ← readKey cs
  match cs with
  | '=' :: cs => some (path, key, skipBlanks cs)
  | _ => none

/-! ### Values -/

def readSimple (cs : List Char) : Option (Value × List Char) :=
  match cs with
  | '"' :: _ | '\'' :: _ =>
    (readString cs).map fun (s, rest) => (.text (String.ofList s), rest)
  | 't' :: 'r' :: 'u' :: 'e' :: rest => some (.boolean true, rest)
  | 'f' :: 'a' :: 'l' :: 's' :: 'e' :: rest => some (.boolean false, rest)
  | cs =>
    (passMoment cs).map (fun rest => (.moment, rest)) <|>
    (readFloat cs).map (fun (bits, rest) => (.float bits, rest)) <|>
    (readInteger cs).map (fun (n, rest) => (.integer n, rest))

mutual

/-- Reads a value. `levels` is how many arrays and tables may still be entered; each step takes
one off the budget. -/
def readValue : (levels budget : Nat) → List Char → Option (Value × List Char)
  | _, 0, _ => none
  | levels + 1, budget + 1, '[' :: cs => do
    let (values, rest) ← readElements levels budget cs
    some (.array values, rest)
  | levels + 1, budget + 1, '\x7b' :: cs => do
    match skipBlanks cs with
    | '\x7d' :: rest => some (.table .inline [], rest)
    | cs => do
      let (members, rest) ← readMembers levels budget [] cs
      some (.table .inline members, rest)
  | _, _ + 1, cs => readSimple cs

/-- Reads the elements of an array, and its end. A comma may stand behind the last one. -/
def readElements : (levels budget : Nat) → List Char → Option (List Value × List Char)
  | _, 0, _ => none
  | levels, budget + 1, cs => do
    match ← skipTrivia false cs with
    | ']' :: rest => some ([], rest)
    | cs => do
      let (v, cs) ← readValue levels budget cs
      match ← skipTrivia false cs with
      | ']' :: rest => some ([v], rest)
      | ',' :: cs => do
        let (vs, rest) ← readElements levels budget cs
        some (v :: vs, rest)
      | _ => none

def readMembers : (levels budget : Nat) → Members → List Char → Option (Members × List Char)
  | _, 0, _, _ => none
  | levels, budget + 1, ms, cs => do
    let (path, key, cs) ← readKeyEquals cs
    let (v, cs) ← readValue levels budget cs
    let ms ← ms.put path key v
    match skipBlanks cs with
    | '\x7d' :: rest => some (ms, rest)
    | ',' :: cs => readMembers levels budget ms cs
    | _ => none

end

/-! ### Documents -/

def readHeader (brackets : Nat) (cs : List Char) : Option (List String × String × List Char) := do
  let (path, key, cs) ← readKey cs
  if (List.replicate brackets ']').isPrefixOf cs then
    some (path, key, ← endLine (cs.drop brackets))
  else none

/-- Reads the lines of a document into the members so far. `header` is the path of the table
that is being filled. Each line takes one off the budget. -/
def readDocument : Nat → (header : List String) → Members → List Char → Option Members
  | 0, _, _, _ => none
  | budget + 1, header, ms, cs =>
    match skipBlanks cs with
    | [] => some ms
    | '\n' :: cs | '\r' :: '\n' :: cs => readDocument budget header ms cs
    | '#' :: cs => do readDocument budget header ms (← endLine ('#' :: cs))
    | '[' :: '[' :: cs => do
      let (path, key, cs) ← readHeader 2 cs
      readDocument budget (path ++ [key]) (← ms.openElement path key) cs
    | '[' :: cs => do
      let (path, key, cs) ← readHeader 1 cs
      readDocument budget (path ++ [key]) (← ms.openTable path key) cs
    | cs => do
      let (path, key, cs) ← readKeyEquals cs
      let (v, cs) ← readValue depthLimit (cs.length + 1) cs
      let cs ← endLine cs
      readDocument budget header (← ms.putAt header path key v) cs

/-- The members of a document. A byte order mark may stand in front. -/
def ofText? (s : String) : Option Members :=
  let cs :=
    match s.toList with
    | c :: cs => if c = '\ufeff' then cs else c :: cs
    | [] => []
  readDocument (cs.length + 1) [] [] cs

end OpcUa.Toml
