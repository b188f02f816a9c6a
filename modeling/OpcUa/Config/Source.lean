import OpcUa.Config.Toml

/-!
Where settings come from: a document, which may be the content of a file, and two environment
variables that override what it says. What comes out is valid or a failure.
-/

namespace OpcUa.Config

def endpointVariable : String := "UA_ASYNC_ENDPOINT"

def timeoutVariable : String := "UA_ASYNC_REQUEST_TIMEOUT"

structure Overrides where
  endpoint : Option String := none
  timeout : Option String := none
deriving DecidableEq, Repr, Inhabited

namespace Overrides

def withEndpoint (o : Overrides) (c : Config) : Config :=
  match o.endpoint with
  | some endpoint => { c with endpoint := endpoint }
  | none => c

/-- Overrides the endpoint and then the timeout. When the timeout is no duration the endpoint
has been overridden already. -/
def apply (o : Overrides) (c : Config) : Except Failure Unit × Config :=
  let c := o.withEndpoint c
  match o.timeout with
  | none => (.ok (), c)
  | some text =>
    match Duration.ofUnitText (Text.trim text) with
    | .ok d => (.ok (), { c with requestTimeout := d })
    | .error e =>
      (.error (.configuration
        (.unloadable timeoutVariable (.unreadable ("invalid duration: " ++ e.message)))), c)

def log (o : Overrides) : List LogLine :=
  match o.endpoint with
  | some _ => [⟨.debug, "endpoint overridden from environment", [("variable", endpointVariable)]⟩]
  | none => []

end Overrides

structure Loaded where
  outcome : Except Failure Config
  log : List LogLine

def settle (o : Overrides) (c : Config) : Except Failure Config :=
  match o.apply c with
  | (.ok (), c) => c.checked
  | (.error e, _) => .error e

def loadedLine (c : Config) : LogLine :=
  ⟨.debug, "client configuration loaded", [("endpoint", c.endpoint)]⟩

def ofText (source text : String) (o : Overrides) : Loaded :=
  match ofToml text with
  | .error .notDocument => ⟨.error (.configuration (.unloadable source .malformed)), []⟩
  | .error (.misfit m) => ⟨.error (.configuration (.unloadable source (.misfit m.message))), []⟩
  | .ok c =>
    let outcome := settle o c
    ⟨outcome, o.log ++ (match outcome with
      | .ok c => [loadedLine c]
      | .error _ => [])⟩

def textSource : String := "<string>"

inductive File
  | missing
  | content (bytes : ByteArray)

def File.text : File → Except String String
  | missing => .error "No such file or directory (os error 2)"
  | content bytes =>
    match String.fromUTF8? bytes with
    | some s => .ok s
    | none => .error "stream did not contain valid UTF-8"

def ofFile (path : String) (file : File) (o : Overrides) : Loaded :=
  let start : LogLine := ⟨.info, "Loading client configuration from: " ++ path, []⟩
  match file.text with
  | .error message => ⟨.error (.configuration (.unloadable path (.unreadable message))), [start]⟩
  | .ok text =>
    let loaded := ofText path text o
    ⟨loaded.outcome, start :: loaded.log⟩

end OpcUa.Config
