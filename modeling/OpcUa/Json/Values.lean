import OpcUa.DataValue
import OpcUa.Json.Real
import OpcUa.NodeClass
import OpcUa.Timestamp.Text

/-!
The JSON forms of identifiers, names, times and attribute values.
-/

namespace OpcUa

def StatusCode.form : Form StatusCode := Form.uint32.via StatusCode.bits (fun n => some ⟨n⟩)

def Severity.form : Form Severity := .named Severity.all Severity.name

def NodeClass.form : Form NodeClass := .named NodeClass.all NodeClass.name

def AttributeId.form : Form AttributeId := .named AttributeId.all AttributeId.name

def ModellingRule.form : Form ModellingRule := .named ModellingRule.all ModellingRule.name

/-- A time is its text; every text that writes a time is read. -/
def Timestamp.form : Form Timestamp := Form.string.via Timestamp.text Timestamp.ofText?

namespace Identifier

inductive Kind
  | numeric
  | text
deriving DecidableEq, Repr

def Kind.name : Kind → String
  | .numeric => "Numeric"
  | .text => "String"

def Kind.all : List Kind := [.numeric, .text]

def Kind.form : Form Kind := .named Kind.all Kind.name

def Kind.nameForm : Form Kind :=
  Form.string.via Kind.name fun s => Kind.all.find? (·.name == s)

def kind : Identifier → Kind
  | .numeric _ => .numeric
  | .text _ => .text

def writeValue : Identifier → Json
  | .numeric n => Form.uint32.write n
  | .text s => Form.string.write s

def readValue (j : Json) : Kind → Option Identifier
  | .numeric => (Form.uint32.read 0 j).map .numeric
  | .text => (Form.string.read 0 j).map .text

def formWith (kind : Form Kind) : Form Identifier :=
  ((Record.required "type" kind).and (.required "value" .raw)).form.via
    (fun i => (i.kind, i.writeValue)) (fun (kind, j) => readValue j kind)

/-- An identifier is an object of its kind and its value. In an array of the two the kind can only
be a name. -/
def form : Form Identifier where
  write := (formWith Kind.form).write
  read
    | n, .array js => (formWith Kind.nameForm).read n (.array js)
    | n, j => (formWith Kind.form).read n j

end Identifier

def NodeId.form : Form NodeId :=
  ((Record.required "namespace_index" .uint16).and
    (.required "identifier" Identifier.form)).form.via
    (fun id => (id.namespaceIndex, id.identifier)) (fun (ns, i) => some ⟨ns, i⟩)

def QualifiedName.form : Form QualifiedName :=
  ((Record.required "namespace_index" .uint16).and (.required "name" .string)).form.via
    (fun q => (q.namespaceIndex, q.name)) (fun (ns, name) => some ⟨ns, name⟩)

def LocalizedText.form : Form LocalizedText :=
  ((Record.required "locale" .string).and (.required "text" .string)).form.via
    (fun t => (t.locale, t.text)) (fun (locale, text) => some ⟨locale, text⟩)

namespace Variant

def tagged (tag : String) (value : Json) : Json := .ofMembers [(tag, value)]

/-- A variant is its value under the name of its type; an empty one is just the name. -/
def toJson : Variant → Json
  | empty => .ofString "Empty"
  | boolean b => tagged "Boolean" (Form.bool.write b)
  | sbyte n => tagged "SByte" (Form.int8.write n)
  | byte n => tagged "Byte" (Form.uint8.write n)
  | int16 n => tagged "Int16" (Form.int16.write n)
  | uint16 n => tagged "UInt16" (Form.uint16.write n)
  | int32 n => tagged "Int32" (Form.int32.write n)
  | uint32 n => tagged "UInt32" (Form.uint32.write n)
  | int64 n => tagged "Int64" (Form.int64.write n)
  | uint64 n => tagged "UInt64" (Form.uint64.write n)
  | float x => tagged "Float" (Form.single.write x)
  | double x => tagged "Double" (Form.double.write x)
  | string s => tagged "String" (Form.string.write s)
  | dateTime t => tagged "DateTime" (Timestamp.form.write t)
  | byteString bytes => tagged "ByteString" ((Form.list .uint8).write bytes)
  | nodeId id => tagged "NodeId" (NodeId.form.write id)
  | qualifiedName q => tagged "QualifiedName" (QualifiedName.form.write q)
  | localizedText t => tagged "LocalizedText" (LocalizedText.form.write t)
  | statusCode c => tagged "StatusCode" (StatusCode.form.write c)
  | array vs => tagged "Array" (.array (vs.map toJson))

def readScalar (levels : Nat) (tag : String) (j : Json) : Option Variant :=
  match tag with
  | "Boolean" => (Form.bool.read levels j).map boolean
  | "SByte" => (Form.int8.read levels j).map sbyte
  | "Byte" => (Form.uint8.read levels j).map byte
  | "Int16" => (Form.int16.read levels j).map int16
  | "UInt16" => (Form.uint16.read levels j).map uint16
  | "Int32" => (Form.int32.read levels j).map int32
  | "UInt32" => (Form.uint32.read levels j).map uint32
  | "Int64" => (Form.int64.read levels j).map int64
  | "UInt64" => (Form.uint64.read levels j).map uint64
  | "Float" => (Form.single.read levels j).map float
  | "Double" => (Form.double.read levels j).map double
  | "String" => (Form.string.read levels j).map string
  | "DateTime" => (Timestamp.form.read levels j).map dateTime
  | "ByteString" => ((Form.list .uint8).read levels j).map byteString
  | "NodeId" => (NodeId.form.read levels j).map nodeId
  | "QualifiedName" => (QualifiedName.form.read levels j).map qualifiedName
  | "LocalizedText" => (LocalizedText.form.read levels j).map localizedText
  | "StatusCode" => (StatusCode.form.read levels j).map statusCode
  | _ => none

/-- Reads a variant. An array takes two levels: that of its tag and its own. -/
def ofJson? : Nat → Json → Option Variant
  | levels + 2, .object [(some "Array", .array js)] => (js.mapM (ofJson? levels)).map array
  | _ + 1, .object [(some "Empty", .null)] => some empty
  | levels + 1, .object [(some tag, j)] => readScalar levels tag j
  | _, .text (some "Empty") => some empty
  | _, _ => none

def form : Form Variant := ⟨toJson, ofJson?⟩

end Variant

def DataValue.form : Form DataValue :=
  ((Record.required "value" Variant.form).and <| (Record.required "status" StatusCode.form).and <|
    (Record.optional "source_timestamp" Timestamp.form).and <|
    .optional "server_timestamp" Timestamp.form).form.via
    (fun v => (v.value, v.status, v.sourceTimestamp, v.serverTimestamp))
    (fun (value, status, source, server) => some ⟨value, status, source, server⟩)

end OpcUa
