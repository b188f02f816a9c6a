import OpcUa.AddressSpace.Basic
import OpcUa.Config.Basic
import OpcUa.Service.Message

/-!
What can be done with a client, as data. A step starts an operation, drives the client or looks at
it. An operation on the server is a call: a request together with what its response means.
Application code runs where a response is transformed and where a completion handler is told the
outcome; it chooses its steps by what it sees, and a handler ends well, with an error or in a panic.
-/

namespace OpcUa.Client

abbrev AnyRequest := (s : Service) × Request s

inductive Payload
  | nothing
  | nodeId (id : NodeId)
  | variant (value : Variant)
  | value (value : DataValue)
  | response (r : AnyResponse)
  | count (n : Nat)
  | number (n : Int64)

inductive Ending
  | done
  | error (e : Failure)
  | panic (p : Panic)
deriving DecidableEq, Repr

/-- The outcome of application code. A panic is caught and becomes a failure. -/
def Ending.outcome : Ending → Except Failure Unit
  | done => .ok ()
  | error e => .error e
  | panic p => .error (.ofPanic p)

/-- The catchers of a session: the client's, and a spare one that no operation uses. -/
inductive Desk
  | client
  | spare
deriving DecidableEq, Repr

inductive CatcherAct
  | store (e : Failure)
  | look
  | rethrow
  | catching (ending : Ending) (value : Int64)
  | catchPanic (ending : Ending) (value : Int64)
deriving Repr

inductive SpaceAct
  | read (item : ReadItem)
  | write (item : WriteItem)
  | addNode (item : AddNodeItem)
  | addReference (item : AddReferenceItem)
  | deleteNode (item : DeleteNodeItem)
  | deleteReference (item : DeleteReferenceItem)
  | insertVariable (parent id : NodeId) (name : String) (value : Variant)
  | contains (id : NodeId)
  | hasReference (source referenceType target : NodeId)
  | node (id : NodeId)
  | referencesFrom (id : NodeId)

/-! ### Prepared transports -/

inductive PreparedResult
  | value (v : DataValue)
  | added (r : AddNodeResult)
  | status (c : StatusCode)

inductive Delivery
  /-- A response with these results; an empty response if there are none. -/
  | response (results : Option (List PreparedResult)) (serviceResult : StatusCode) (handle : UInt32)
  | absent
  | wrongType
  | foreignContext
  /-- Nothing at all: the context is dropped. -/
  | dropped
  /-- Nothing yet: the request goes back to the queue. -/
  | held

structure SubmitPlan where
  reject : Option StatusCode := none
  foreignContext : Bool := false
  delivery : Delivery := .response none .good 0

structure PassPlan where
  errorBefore : Option Failure := none
  errorAfter : Option Failure := none
  isReversed : Bool := false
  count : Option Nat := none

/-! ### Steps -/

inductive TrialDelivery
  | number (n : Int64)
  | wrongType
  | absent
  | rejected (status : StatusCode)
deriving Repr

/-- The trial of an adapter from numbers to numbers. Its transform doubles what it takes, unless
it ends badly. -/
structure Trial where
  transform : Ending
  requestId : UInt32
  delivery : TrialDelivery
  foreignContext : Bool

inductive Subject
  | client
  | transport
  | connection
  | future (name : String)
  | deferred (name : String)

mutual

structure Call where
  service : Service
  request : Request service
  transform : Transform (Response service) Payload
  /-- What the transform does in the session before it comes to its result. -/
  during : Response service → List Step := fun _ => []
  fallback : Payload

/-- One thing to do in a session. -/
inductive Step
  | call (call : Call) (token : Token)
  | start (slot : String) (token : Token)
  | startUnit (slot : String) (token : Token)
  | immediate (code : StatusCode) (value : Int64) (token : Token)
  | launch (name : String) (token : Token)
  | tryAdapter (trial : Trial) (handler : Handler)
  | submitRaw (service : Service) (body : Option AnyRequest) (handler : Option Handler)
  | run
  | pump
  | close
  | reopen
  | failNextSubmit (status : StatusCode)
  | dropNextResponse
  | config
  | describe (subject : Subject)
  | catcher (desk : Desk) (act : CatcherAct)
  | take (name : String)
  | poll (name : String)
  | wait (name : String)
  | forget (name : String)
  | forgetDeferred (name : String)
  | complete (slot : String) (code : StatusCode) (value : Int64)
  | abandon (slot : String)
  | space (act : SpaceAct)
  | plan (p : SubmitPlan)
  | planPass (p : PassPlan)

/-- How the outcome of an operation is delivered. -/
inductive Token
  | sync
  | future (name : String)
  | deferred (name : String)
  | detached
  | handler (h : Handler)

/-- A completion handler: its name, whether it sees only the status, and what it does. -/
inductive Handler
  | mk (name : String) (statusOnly : Bool) (react : StatusCode → Payload → List Step × Ending)

end

namespace Handler

def name : Handler → String
  | mk name _ _ => name

def statusOnly : Handler → Bool
  | mk _ statusOnly _ => statusOnly

def react : Handler → StatusCode → Payload → List Step × Ending
  | mk _ _ react => react

end Handler

end OpcUa.Client
