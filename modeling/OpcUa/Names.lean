import OpcUa.Text.Decimal

/-!
Names of nodes: qualified names for programs and localized texts for people.
-/

namespace OpcUa

structure QualifiedName where
  namespaceIndex : UInt16 := 0
  name : String := ""
deriving DecidableEq, Repr, Inhabited

namespace QualifiedName

def isNull (q : QualifiedName) : Bool := q.name.isEmpty

/-- The display text: the namespace, unless it is zero, and the name. -/
def display (q : QualifiedName) : String :=
  if q.namespaceIndex = 0 then q.name
  else Text.Decimal.ofNat q.namespaceIndex.toNat ++ ":" ++ q.name

end QualifiedName

/-- A text with the locale it is written for; the locale may be empty. -/
structure LocalizedText where
  locale : String := ""
  text : String := ""
deriving DecidableEq, Repr, Inhabited

namespace LocalizedText

def plain (text : String) : LocalizedText := ⟨"", text⟩

def display (t : LocalizedText) : String := t.text

end LocalizedText

end OpcUa
