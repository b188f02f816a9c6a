import OpcUa.Json.Form
import OpcUa.Json.Reader
import OpcUa.Json.Writer

/-!
Values as JSON documents.
-/

namespace OpcUa.Form

def levelLimit : Nat := 127

def toText {α : Type} (f : Form α) (a : α) : String := (f.write a).toText

def ofText? {α : Type} (f : Form α) (s : String) : Option α :=
  (Json.ofText? s).bind (f.read levelLimit)

end OpcUa.Form
