import OpcUa.Number.Literal

/-!
Values of JSON. Numbers are kept as they are written, and objects keep their members in order,
repeated names included, so that a value says all that its text says.
-/

namespace OpcUa

/-- A value of JSON. A text of an escaped surrogate without its partner is none that a string
could hold: there the text is `none`. -/
inductive Json
  | null
  | bool (value : Bool)
  | number (value : Literal)
  | text (value : Option String)
  | array (values : List Json)
  | object (members : List (Option String × Json))
deriving Repr, Inhabited

namespace Json

def ofString (s : String) : Json := text (some s)

def ofInt (n : Int) : Json := number (.ofInt n)

def ofMembers (members : List (String × Json)) : Json :=
  object (members.map fun (name, value) => (some name, value))

end Json

end OpcUa
