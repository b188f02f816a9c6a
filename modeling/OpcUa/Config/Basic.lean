import OpcUa.Failure

/-!
Client settings, the conditions they have to meet, and drafts from which they are built.
-/

namespace OpcUa

structure Config where
  endpoint : String := "opc.tcp://localhost:4840"
  applicationName : String := "ua-async client"
  sessionName : Option String := none
  requestTimeout : Duration := .ofSeconds 10
  /-- How many requests may be queued; zero stands for any number. -/
  maxPending : UInt64 := 0
deriving DecidableEq, Repr, Inhabited

namespace Config

def scheme : String := "opc.tcp://"

def ofEndpoint (endpoint : String) : Config where
  endpoint := endpoint

def validate (c : Config) : Except Failure Unit :=
  if c.endpoint.isEmpty then .error (.configuration (.missingField "endpoint"))
  else if !c.endpoint.startsWith scheme then
    .error (.configuration (.invalidEndpoint c.endpoint "Endpoint must start with opc.tcp://"))
  else if c.requestTimeout.isZero then
    .error (.configuration
      (.invalidTimeout c.requestTimeout "Request timeout must be greater than 0"))
  else .ok ()

def checked (c : Config) : Except Failure Config :=
  match c.validate with
  | .ok () => .ok c
  | .error e => .error e

structure Draft where
  endpoint : Option String := none
  applicationName : Option String := none
  sessionName : Option String := none
  requestTimeout : Option Duration := none
  maxPending : Option UInt64 := none
deriving Repr

/-- The settings of a draft. The endpoint has to be chosen; the others have defaults. -/
def Draft.filled (d : Draft) : Option Config :=
  d.endpoint.map fun endpoint =>
    let standard : Config := {}
    { endpoint := endpoint
      applicationName := d.applicationName.getD standard.applicationName
      sessionName := d.sessionName
      requestTimeout := d.requestTimeout.getD standard.requestTimeout
      maxPending := d.maxPending.getD standard.maxPending }

def Draft.build (d : Draft) : Except Failure Config :=
  match d.filled with
  | none => .error (.configuration (.missingField "endpoint"))
  | some c => c.checked

end Config

end OpcUa
