import OpcUa.Config.Form
import OpcUa.Json.Document
import OpcUa.Json.Messages

/-!
The types that have a JSON form, by name.
-/

namespace OpcUa.Json

structure Entry where
  normalize : String → Option String
  standard : Option String

def Entry.plain {α : Type} (f : Form α) : Entry where
  normalize s := (f.ofText? s).map f.toText
  standard := none

def Entry.withStandard {α : Type} (f : Form α) (standard : α) : Entry where
  normalize s := (f.ofText? s).map f.toText
  standard := some (f.toText standard)

def messages (s : Service) : List (String × Entry) :=
  [(s.display ++ "Request", .withStandard (Request.form s) {}),
    (s.responseName, .withStandard (Response.form s) {})]

def catalog : List (String × Entry) :=
  [("NodeIdentifier", .plain Identifier.form),
    ("NodeId", .withStandard NodeId.form default),
    ("QualifiedName", .withStandard QualifiedName.form {}),
    ("LocalizedText", .withStandard LocalizedText.form {}),
    ("NodeClass", .plain NodeClass.form),
    ("AttributeId", .withStandard AttributeId.form default),
    ("ModellingRule", .plain ModellingRule.form),
    ("ServiceKind", .plain Service.form),
    ("TransportState", .withStandard connectionForm false),
    ("Severity", .plain Severity.form),
    ("StatusCode", .withStandard StatusCode.form default),
    ("Variant", .withStandard Variant.form default),
    ("DataValue", .withStandard DataValue.form {}),
    ("RequestHeader", .withStandard RequestHeader.form {}),
    ("ResponseHeader", .withStandard ResponseHeader.form {}),
    ("ReadValueId", .withStandard ReadItem.form {}),
    ("WriteValue", .withStandard WriteItem.form {}),
    ("NodeAttributes", .withStandard NodeAttributes.form {}),
    ("AddNodesItem", .plain AddNodeItem.form),
    ("AddNodesResult", .withStandard AddNodeResult.form {}),
    ("AddReferencesItem", .plain AddReferenceItem.form),
    ("DeleteNodesItem", .withStandard DeleteNodeItem.form {}),
    ("DeleteReferencesItem", .plain DeleteReferenceItem.form),
    ("ClientConfig", .withStandard Config.form {})] ++
  Service.all.flatMap messages

end OpcUa.Json
