import OpcUa.Failure
import OpcUa.Service.Items

/-!
The six services. A request carries a list of items and a response one result for each of them;
which items and which results is a function of the service, so that everything that holds of all
services alike is said once.
-/

namespace OpcUa

inductive Service
  | read
  | write
  | addNodes
  | addReferences
  | deleteNodes
  | deleteReferences
deriving DecidableEq, Repr

namespace Service

def all : List Service := [read, write, addNodes, addReferences, deleteNodes, deleteReferences]

def display : Service → String
  | read => "Read"
  | write => "Write"
  | addNodes => "AddNodes"
  | addReferences => "AddReferences"
  | deleteNodes => "DeleteNodes"
  | deleteReferences => "DeleteReferences"

def name : Service → String
  | read => "read"
  | write => "write"
  | addNodes => "add_nodes"
  | addReferences => "add_references"
  | deleteNodes => "delete_nodes"
  | deleteReferences => "delete_references"

def responseName (s : Service) : String := s.display ++ "Response"

abbrev Item : Service → Type
  | read => ReadItem
  | write => WriteItem
  | addNodes => AddNodeItem
  | addReferences => AddReferenceItem
  | deleteNodes => DeleteNodeItem
  | deleteReferences => DeleteReferenceItem

abbrev Result : Service → Type
  | read => DataValue
  | addNodes => AddNodeResult
  | write | addReferences | deleteNodes | deleteReferences => StatusCode

def resultStatus : (s : Service) → s.Result → StatusCode
  | read, v => v.status
  | addNodes, r => r.status
  | write, c | addReferences, c | deleteNodes, c | deleteReferences, c => c

end Service

structure RequestHeader where
  requestHandle : UInt32 := 0
  timestamp : Timestamp := .epoch
  timeoutHint : UInt32 := 0
deriving DecidableEq, Repr, Inhabited

structure ResponseHeader where
  requestHandle : UInt32 := 0
  timestamp : Timestamp := .epoch
  serviceResult : StatusCode := .good
deriving DecidableEq, Repr, Inhabited

/-- The header of the answer to a request: its handle, the time, and the result. -/
def ResponseHeader.answering (request : RequestHeader) (serviceResult : StatusCode)
    (now : Timestamp) : ResponseHeader :=
  ⟨request.requestHandle, now, serviceResult⟩

/-- The age in milliseconds up to which a value may be answered from a cache, as the bits of a
binary number. Only reading asks for it. -/
abbrev Service.Age : Service → Type
  | read => UInt64
  | write | addNodes | addReferences | deleteNodes | deleteReferences => Unit

def Service.noAge : (s : Service) → s.Age
  | read => (0 : UInt64)
  | write | addNodes | addReferences | deleteNodes | deleteReferences => ()

structure Request (s : Service) where
  header : RequestHeader := {}
  maxAge : s.Age := s.noAge
  items : List s.Item := []

structure Response (s : Service) where
  header : ResponseHeader := {}
  results : List s.Result := []

instance {s : Service} : Inhabited (Response s) := ⟨{}⟩

abbrev AnyResponse := (s : Service) × Response s

def AnyResponse.as? (r : AnyResponse) (s : Service) : Option (Response s) :=
  if h : r.1 = s then some (h ▸ r.2) else none

/-- A step that takes a response apart: it yields a value or fails, and leaves what remains of
the response. -/
abbrev Transform (ρ α : Type) := ρ → Except Failure α × ρ

namespace Response

variable {s : Service}

/-- The whole response; an empty one remains. -/
def wrap : Transform (Response s) (Response s) := fun r => (.ok r, {})

/-- The only result of a response. It fails with the service result if that is bad, and with
`BadUnexpectedError` unless there is exactly one result. -/
def single : Transform (Response s) s.Result := fun r =>
  match r.header.serviceResult.throwIfBad with
  | .error e => (.error e, r)
  | .ok () =>
    match r.results with
    | [x] => (.ok x, { r with results := [] })
    | _ => (.error (.ofStatus .badUnexpectedError), r)

def checked : Transform (Response s) s.Result := fun r =>
  match single r with
  | (.ok x, rest) =>
    match (s.resultStatus x).throwIfBad with
    | .ok () => (.ok x, rest)
    | .error e => (.error e, rest)
  | failed => failed

end Response

end OpcUa
