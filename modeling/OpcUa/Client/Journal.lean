import OpcUa.AddressSpace.Node
import OpcUa.Client.Script

/-!
What happens in a session, in order. Every occurrence is a typed record; some are seen by those
who wrote the steps, some are written to the log, and `logLine?` gives the wording of those.
-/

namespace OpcUa.Client

inductive Missing
  | future
  | deferred
  | slot
deriving DecidableEq, Repr

def Missing.text : Missing → String
  | future => "no such future"
  | deferred => "no such deferred"
  | slot => "no such slot"

/-- Who is told what an operation has come to. -/
inductive Completion
  | future (cell : Nat)
  | nobody
  | handler (h : Handler)

/-- What the trial of an adapter showed: how often the transform ran, what is left of the
response, and whether the spare catcher holds a failure. -/
structure TrialReport where
  transforms : Nat
  left : Option Int64
  caught : Bool
deriving Repr

inductive Answer
  | nothing
  | started
  | pending
  | flag (b : Bool)
  | text (s : String)
  | outcome (r : Except Failure Payload)
  | config (c : Config)
  | status (c : StatusCode)
  | added (r : AddNodeResult)
  | value (v : DataValue)
  | node (n : Option Node)
  | references (l : List Reference)
  | accepted (id : UInt32)
  | refused (status : StatusCode)
  | kept (value : Option Int64)
  | trial (report : TrialReport)
  | missing (what : Missing)

/-- Something that happened. -/
inductive Occurrence
  | clientCreated (endpoint application : String)
  /-- An operation on the server was started for a completion; operations are numbered. -/
  | began (operation : Nat) (completion : Completion)
  | submitted (operation : Nat) (id : UInt32) (service : Service)
  | rejected (operation : Nat) (service : Service) (status : StatusCode)
  /-- The transport accepted a request; it waits in the queue. -/
  | accepted (id : UInt32) (service : Service) (body : Option AnyRequest)
  /-- The transport rejected a request. -/
  | refused (service : Service) (status : StatusCode)
  /-- A fault was set up: the transport will reject the next request. -/
  | armed (status : StatusCode)
  /-- Someone other than the client has the transport make a pass. -/
  | pumping
  /-- A pass took these requests from the queue of an open or a closed transport. -/
  | passBegan (isConnected : Bool) (ids : List UInt32)
  /-- The server came to a request: it gave a response or withheld it. -/
  | served (id : UInt32) (service : Service) (body : Option AnyRequest)
      (response : Option AnyResponse)
  | mismatched (service : Service)
  | nodeAdded (id : NodeId)
  /-- The callback of a request was invoked, with a response or without one. -/
  | calledBack (id : UInt32) (response : Option AnyResponse)
  | unanswered (id : UInt32)
  | transformFailed (id : UInt32) (status : StatusCode) (e : Failure)
  | invoking (id : UInt32) (status : StatusCode)
  /-- A completion is invoked, and concludes an operation. -/
  | concluded (operation : Nat) (completion : Completion) (status : StatusCode) (payload : Payload)
  | foreignContext (responseType : String)
  /-- Application code handed a failure to a catcher itself. -/
  | handedIn (desk : Desk) (e : Failure)
  /-- A failure was put into a catcher. -/
  | failureStored (desk : Desk) (e : Failure)
  /-- A failure was dropped because the catcher held another one. -/
  | failureDropped (desk : Desk) (pending dropped : Failure)
  /-- A failure was taken out of a catcher and handed on. -/
  | failureRethrown (desk : Desk) (e : Failure)
  | reported (context : String) (e : Failure)
  | timedOut (timeout : Duration)
  /-- A pass served this many requests. -/
  | passServed (n : Nat)
  /-- A pass on a closed transport abandoned this many requests. -/
  | passAbandoned (n : Nat)
  | passFinished (n : Nat)
  | closed (pending : Nat)
  | reopened
  /-- A handler was called; it sees the payload unless it takes only the status. -/
  | called (name : String) (status : StatusCode) (payload : Option Payload)
  /-- A handler came to its end, inside a catcher or outside of any. -/
  | ended (desk : Option Desk) (ending : Ending)
  /-- A handler or a transform came to a step. -/
  | took (step : Step)
  | inside (name : String) (answer : Answer)
  | probed (id : UInt32) (response : Option Service)
  | initiated (slot : String)
  | completedAtOnce (result : Except Failure Unit)

namespace Occurrence

def logLine? : Occurrence → Option LogLine
  | clientCreated endpoint application =>
    some ⟨.debug, "client created", [("endpoint", endpoint), ("application", application)]⟩
  | submitted _ id service =>
    some ⟨.trace, "request submitted",
      [("request_id", Text.Decimal.ofNat id.toNat), ("service", service.display)]⟩
  | rejected _ service status =>
    some ⟨.warn, "request rejected by transport",
      [("service", service.display), ("status", status.text)]⟩
  | served id service _ response =>
    some ⟨.trace, "serving request",
      [("request_id", Text.Decimal.ofNat id.toNat), ("service", service.display),
        ("delivered", if response.isSome then "true" else "false")]⟩
  | mismatched service =>
    some ⟨.warn, "request does not match its service", [("service", service.display)]⟩
  | nodeAdded id => some ⟨.trace, "node added", [("node_id", id.display)]⟩
  | unanswered id =>
    some ⟨.warn, "no response delivered for request",
      [("request_id", Text.Decimal.ofNat id.toNat)]⟩
  | transformFailed id status e =>
    some ⟨.debug, "response transform failed",
      [("request_id", Text.Decimal.ofNat id.toNat), ("status", status.text),
        ("error", e.message)]⟩
  | invoking id status =>
    some ⟨.trace, "invoking completion handler",
      [("request_id", Text.Decimal.ofNat id.toNat), ("status", status.text)]⟩
  | foreignContext responseType =>
    some ⟨.error, "raw callback received a foreign context; operation cannot complete",
      [("response", responseType)]⟩
  | failureStored _ e =>
    some ⟨.debug, "deferred failure stored", [("error", e.message), ("category", e.category)]⟩
  | failureDropped _ pending dropped =>
    some ⟨.warn, "deferred failure already pending, dropping new failure",
      [("pending", pending.message), ("dropped", dropped.message)]⟩
  | failureRethrown _ e => some ⟨.debug, "rethrowing deferred failure", [("error", e.message)]⟩
  | reported context e => some (e.logLine context)
  | timedOut timeout => some ⟨.warn, "synchronous request timed out", [("timeout", timeout.brief)]⟩
  | passServed n =>
    if n = 0 then none
    else some ⟨.debug, "loopback pump pass", [("served", Text.Decimal.ofNat n)]⟩
  | passAbandoned n =>
    some ⟨.debug, "pump on closed loopback transport", [("abandoned", Text.Decimal.ofNat n)]⟩
  | passFinished n => some ⟨.trace, "pump pass finished", [("callbacks", Text.Decimal.ofNat n)]⟩
  | closed pending =>
    some ⟨.debug, "loopback transport closed", [("pending", Text.Decimal.ofNat pending)]⟩
  | reopened => some ⟨.debug, "loopback transport reopened", []⟩
  | began .. | accepted .. | refused .. | armed _ | pumping | passBegan .. | calledBack ..
  | concluded .. | handedIn .. | called .. | ended .. | took _ | inside .. | probed ..
  | initiated _ | completedAtOnce _ => none

def isVisible : Occurrence → Bool
  | called .. | inside .. | probed .. | initiated _ | completedAtOnce _ => true
  | _ => false

def isProbe : Occurrence → Bool
  | probed .. => true
  | _ => false

end Occurrence

end OpcUa.Client
