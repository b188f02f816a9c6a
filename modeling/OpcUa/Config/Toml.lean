import OpcUa.Config.Basic
import OpcUa.Duration.Units
import OpcUa.Number.Shortest
import OpcUa.Text.Quoted
import OpcUa.Toml.Reader

/-!
The settings of a client as a TOML document. Reading tells a text that is no document from a
document that holds no settings, and of the latter says what is wrong first.
-/

namespace OpcUa

namespace Toml

def floatText (bits : Nat) : String :=
  let f := Number.Format.double
  let sign := if f.isNegative bits then "-" else ""
  if f.isNaN bits then "NaN"
  else if f.isFinite bits then
    let (whole, fraction) := (f.shortest .upwards bits).positional
    sign ++ String.ofList whole ++ "." ++ String.ofList fraction
  else sign ++ "inf"

def Value.describe : Value → String
  | text s => "string " ++ Text.Quoted.text s
  | integer n => "integer \x60" ++ Text.Decimal.ofInt n ++ "\x60"
  | float bits => "floating point \x60" ++ floatText bits ++ "\x60"
  | boolean b => "boolean \x60" ++ (if b then "true" else "false") ++ "\x60"
  | array _ | tables _ => "sequence"
  | moment | table .. => "map"

end Toml

namespace Config

inductive Misfit
  | wrongType (found : Toml.Value) (expected : String)
  | outOfRange (found : Toml.Value) (expected : String)
  | notDuration (error : Duration.TextError)
  | missing (key : String)
deriving Repr

def Misfit.message : Misfit → String
  | wrongType found expected => "invalid type: " ++ found.describe ++ ", expected " ++ expected
  | outOfRange found expected => "invalid value: " ++ found.describe ++ ", expected " ++ expected
  | notDuration error => error.message
  | missing key => "missing field \x60" ++ key ++ "\x60"

def textOf : Toml.Value → Except Misfit String
  | .text s => .ok s
  | found => .error (.wrongType found "a string")

def durationOf (v : Toml.Value) : Except Misfit Duration := do
  match Duration.ofUnitText (← textOf v) with
  | .ok d => .ok d
  | .error e => .error (.notDuration e)

def countOf : Toml.Value → Except Misfit UInt64
  | .integer n =>
    if 0 ≤ n then .ok (UInt64.ofNat n.toNat) else .error (.outOfRange (.integer n) "usize")
  | found => .error (.wrongType found "usize")

/-- Takes over one member of a document. Members that are no settings are passed over. -/
def Draft.take (d : Draft) (key : String) (v : Toml.Value) : Except Misfit Draft :=
  match key with
  | "endpoint" => do return { d with endpoint := some (← textOf v) }
  | "application_name" => do return { d with applicationName := some (← textOf v) }
  | "session_name" => do return { d with sessionName := some (← textOf v) }
  | "request_timeout" => do return { d with requestTimeout := some (← durationOf v) }
  | "max_pending_requests" => do return { d with maxPending := some (← countOf v) }
  | _ => .ok d

def ofMembers (ms : Toml.Members) : Except Misfit Config := do
  let d ← ms.foldlM (fun d m => Draft.take d m.1 m.2) {}
  match d.filled with
  | some c => .ok c
  | none => .error (.missing "endpoint")

inductive TextError
  | notDocument
  | misfit (m : Misfit)

def ofToml (s : String) : Except TextError Config :=
  match Toml.ofText? s with
  | none => .error .notDocument
  | some ms =>
    match ofMembers ms with
    | .ok c => .ok c
    | .error m => .error (.misfit m)

def textLine (key value : String) : List Char :=
  key.toList ++ [' ', '=', ' '] ++ Toml.writeString value.toList ++ ['\n']

/-- The settings as a document. A limit that is no number of 64 bits with a sign cannot be
written. -/
def toToml? (c : Config) : Option String :=
  if (c.maxPending.toNat : Int) ≤ Int64.maxValue.toInt then
    some <| String.ofList <|
      textLine "endpoint" c.endpoint ++
      textLine "application_name" c.applicationName ++
      (match c.sessionName with
        | some s => textLine "session_name" s
        | none => []) ++
      textLine "request_timeout" c.requestTimeout.unitText ++
      "max_pending_requests = ".toList ++ Text.Decimal.digits c.maxPending.toNat ++ ['\n']
  else none

end Config

end OpcUa
