import OpcUa.Text.Decimal

/-!
Values of TOML, and tables as they grow while a document is read. A table remembers how it came
to be, since that decides who may still add to it.
-/

namespace OpcUa.Toml

inductive Origin
  /-- By a header of its own; the document itself counts as such a table. -/
  | defined
  | implied
  | dotted
  | inline
deriving DecidableEq, Repr

/-- A value of TOML. Dates and times are not told apart. -/
inductive Value
  | text (s : String)
  | integer (n : Int)
  | float (bits : Nat)
  | boolean (b : Bool)
  | moment
  | array (values : List Value)
  | table (origin : Origin) (members : List (String × Value))
  | tables (each : List (List (String × Value)))
deriving Repr, Inhabited

abbrev Members := List (String × Value)

namespace Members

def replace (ms : Members) (key : String) (value : Value) : Members :=
  ms.map fun m => if m.1 == key then (key, value) else m

def without (ms : Members) (key : String) : Members := ms.filter fun m => m.1 != key

/-- Changes the table that a path leads to, making the tables that are missing on the way. Of
the tables under one header with two brackets the last is meant. A table between braces cannot be
entered from outside, and a table with a header of its own not through a key with dots. -/
def change (isDotted : Bool) (f : Origin → Members → Option Members) :
    List String → Origin → Members → Option Members
  | [], origin, ms => f origin ms
  | key :: path, _, ms =>
    match ms.lookup key with
    | none => do
      let origin := if isDotted then Origin.dotted else .implied
      let inner ← change isDotted f path origin []
      some (ms ++ [(key, .table origin inner)])
    | some (.table origin inner) =>
      if origin = .inline ∨ isDotted = true ∧ origin = .defined then none
      else do
        let inner ← change isDotted f path origin inner
        some (ms.replace key (.table origin inner))
    | some (.tables each) =>
      match each.getLast? with
      | none => none
      | some last => do
        let last ← change isDotted f path .defined last
        some (ms.replace key (.tables (each.dropLast ++ [last])))
    | some _ => none

/-- Adds a value under a key with dots. The last table on the way is one that such keys made,
and the last part of the key is new in it. -/
def put (ms : Members) (path : List String) (key : String) (value : Value) : Option Members :=
  change true (fun origin inner =>
    if (origin == .dotted) == path.isEmpty || (inner.lookup key).isSome then none
    else some (inner ++ [(key, value)])) path .defined ms

/-- Opens the table of a header. It is new, or was only implied before. -/
def openTable (ms : Members) (path : List String) (key : String) : Option Members :=
  change false (fun _ inner =>
    match inner.lookup key with
    | none => some (inner ++ [(key, .table .defined [])])
    | some (.table .implied held) => some (inner.without key ++ [(key, .table .defined held)])
    | some _ => none) path .defined ms

def openElement (ms : Members) (path : List String) (key : String) : Option Members :=
  change false (fun _ inner =>
    match inner.lookup key with
    | none => some (inner ++ [(key, .tables [[]])])
    | some (.tables each) => some (inner.replace key (.tables (each ++ [[]])))
    | some _ => none) path .defined ms

def putAt (ms : Members) (header : List String) (path : List String) (key : String)
    (value : Value) : Option Members :=
  change false (fun _ inner => inner.put path key value) header .defined ms

end Members

end OpcUa.Toml
