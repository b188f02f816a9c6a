import OpcUa.AddressSpace.Services
import OpcUa.AddressSpace.Standard
import OpcUa.Client.Journal

/-!
The state of a session: the client with its transport, catcher and counters, the futures, deferred
operations and parked completions that steps refer to by name, and the journal. `Run` is the
type of actions on it.
-/

namespace OpcUa.Client

/-- Counters of a client. They stop at the greatest 64-bit number. -/
structure Stats where
  submitted : Nat := 0
  rejected : Nat := 0
  iterations : Nat := 0
  callbacks : Nat := 0
  rethrown : Nat := 0
deriving DecidableEq, Repr

def Stats.bump (counter amount : Nat) : Nat := min (counter + amount) (UInt64.size - 1)

/-- What a callback carries from the request to its answer: how the response becomes a payload,
and who is told. -/
structure Adapter (ρ : Type) where
  operation : Option Nat
  desk : Desk
  transform : Transform ρ Payload
  /-- What the transform does in the session before it comes to its result. -/
  during : ρ → List Step := fun _ => []
  fallback : Payload
  completion : Completion
  responseType : String

/-- Who gets the answer to a request: an adapter, or one who only looks whether it came. -/
inductive Receiver
  | adapter (s : Service) (a : Adapter (Response s))
  | probe

structure Queued where
  id : UInt32
  service : Service
  /-- The request; none if it is something else. -/
  body : Option AnyRequest
  receiver : Receiver

structure Loopback where
  isConnected : Bool := true
  queue : List Queued := []
  space : AddressSpace := .standard
  nextRequestId : UInt32 := 1
  /-- How many requests may be queued; zero stands for any number. -/
  maxPending : Nat := 0
  failNext : Option StatusCode := none
  dropNext : Bool := false

structure Prepared where
  isConnected : Bool := true
  queue : List (Queued × Delivery) := []
  nextRequestId : UInt32 := 1
  plans : List SubmitPlan := []
  passPlans : List PassPlan := []

inductive Transport
  | loopback (l : Loopback)
  | prepared (p : Prepared)

namespace Transport

def isConnected : Transport → Bool
  | loopback l => l.isConnected
  | prepared p => p.isConnected

def pending : Transport → Nat
  | loopback l => l.queue.length
  | prepared p => p.queue.length

end Transport

inductive Cell
  | waiting
  | ready (outcome : Except Failure Payload)
  | spent

inductive Initiation
  | call (c : Call)
  | park (slot : String)
  | parkUnit (slot : String)
  | immediate (code : StatusCode) (value : Int64)

/-- Readings of two clocks, one of the time of day and one that only goes on, in nanoseconds. The
n-th look at a clock shows its n-th reading. -/
structure Clocks where
  day : Nat → Timestamp
  steady : Nat → Nat
  dayLooks : Nat := 0
  steadyLooks : Nat := 0

/-- The state of a session. -/
structure State where
  config : Config
  transport : Transport
  clocks : Clocks
  caught : Option Failure := none
  spareCaught : Option Failure := none
  stats : Stats := {}
  operations : Nat := 0
  cells : Array Cell := #[]
  futures : List (String × Nat) := []
  deferred : List (String × Initiation) := []
  slots : List (String × Completion) := []
  unitSlots : List (String × Completion) := []
  journal : Array Occurrence := #[]

/-- Actions on a session. An action that gives nothing has used up the passes or the depth of
nesting that it was allowed. -/
abbrev Run := StateT State Option

namespace Run

def exhausted {α : Type} : Run α := fun _ => none

def note (o : Occurrence) : Run Unit := modify fun s => { s with journal := s.journal.push o }

def noteAll (os : List Occurrence) : Run Unit :=
  modify fun s => { s with journal := s.journal ++ os.toArray }

def timeOfDay : Run Timestamp := modifyGet fun s =>
  (s.clocks.day s.clocks.dayLooks,
    { s with clocks := { s.clocks with dayLooks := s.clocks.dayLooks + 1 } })

def steadyTime : Run Nat := modifyGet fun s =>
  (s.clocks.steady s.clocks.steadyLooks,
    { s with clocks := { s.clocks with steadyLooks := s.clocks.steadyLooks + 1 } })

def count (f : Stats → Stats) : Run Unit := modify fun s => { s with stats := f s.stats }

/-! ### Names -/

def without {α : Type} (name : String) (l : List (String × α)) : List (String × α) :=
  l.filter (·.1 != name)

def assign {α : Type} (name : String) (a : α) (l : List (String × α)) : List (String × α) :=
  (name, a) :: without name l

/-! ### Cells -/

def newCell : Run Nat := modifyGet fun s =>
  (s.cells.size, { s with cells := s.cells.push .waiting })

def setCell (cell : Nat) (c : Cell) : Run Unit := modify fun s =>
  { s with cells := s.cells.setIfInBounds cell c }

def getCell (cell : Nat) : Run Cell := do
  return ((← get).cells[cell]?).getD .spent

/-- The outcome in a cell, if it has come; it can be taken once. -/
def takeOutcome (cell : Nat) : Run (Option (Except Failure Payload)) := do
  match ← getCell cell with
  | .waiting => return none
  | .ready outcome =>
    setCell cell .spent
    return some outcome
  | .spent => return some (.error (.ofStatus .badShutdown))

/-- Lets go of a completion that will not be invoked: its future will have no outcome. -/
def drop : Completion → Run Unit
  | .future cell => do
    match ← getCell cell with
    | .waiting => setCell cell .spent
    | .ready _ | .spent => pure ()
  | .nobody | .handler _ => pure ()

def dropAny : Option Completion → Run Unit
  | some c => drop c
  | none => pure ()

/-! ### Catchers -/

def caught (desk : Desk) : Run (Option Failure) := do
  match desk with
  | .client => return (← get).caught
  | .spare => return (← get).spareCaught

def setCaught (desk : Desk) (e : Option Failure) : Run Unit :=
  modify fun s =>
    match desk with
    | .client => { s with caught := e }
    | .spare => { s with spareCaught := e }

/-- Puts a failure into a catcher. One that holds a failure already keeps it, and the new one is
dropped. -/
def store (desk : Desk) (e : Failure) : Run Unit := do
  match ← caught desk with
  | some pending => note (.failureDropped desk pending e)
  | none =>
    note (.failureStored desk e)
    setCaught desk (some e)

def rethrow (desk : Desk) : Run (Option Failure) := do
  match ← caught desk with
  | none => return none
  | some e =>
    setCaught desk none
    note (.failureRethrown desk e)
    return some e

def catching {α : Type} (desk : Desk) (code : Run (Except Failure α)) : Run (Option α) := do
  match ← code with
  | .ok a => return some a
  | .error e =>
    store desk e
    return none

end Run

end OpcUa.Client
