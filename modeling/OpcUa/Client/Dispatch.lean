import OpcUa.Client.Call
import OpcUa.Client.Loopback
import OpcUa.Client.Prepared

/-!
How a client starts operations and drives them. A token decides who is told the outcome of an
operation; a pass lets the transport call back and then hands out a failure that a handler has
left in the catcher; waiting makes passes until a future has its outcome or its time is over.
-/

namespace OpcUa.Client

open Run

def responseType (s : Service) : String :=
  "ua_async_client::services::messages::" ++ s.responseName

def Call.requestAt (c : Call) (now : Timestamp) : Request c.service :=
  { c.request with header := { c.request.header with timestamp := now } }

def Call.adapter (c : Call) (operation : Nat) (completion : Completion) :
    Adapter (Response c.service) where
  operation := some operation
  desk := .client
  transform := c.transform
  during := c.during
  fallback := c.fallback
  completion := completion
  responseType := responseType c.service

/-- The transport's answer to a submission: the identifier of the request, or a status and whether
the context that comes back is another one. -/
def submitTo (t : Transport) (service : Service) (body : Option AnyRequest) (receiver : Receiver) :
    Except (StatusCode × Bool) UInt32 × Transport :=
  match t with
  | .loopback l =>
    match l.submit service body receiver with
    | (.ok id, l) => (.ok id, .loopback l)
    | (.error status, l) => (.error (status, false), .loopback l)
  | .prepared p =>
    match p.submit service body receiver with
    | (r, p) => (r, .prepared p)

def handOver (service : Service) (body : Option AnyRequest) (receiver : Receiver) :
    Run (Except (StatusCode × Bool) UInt32) := do
  let (r, t) := submitTo (← get).transport service body receiver
  modify fun s => { s with transport := t }
  match r with
  | .ok id =>
    note (.accepted id service body)
    return .ok id
  | .error e =>
    note (.refused service e.1)
    return .error e

def newOperation (completion : Completion) : Run Nat := do
  let n := (← get).operations
  modify fun s => { s with operations := n + 1 }
  note (.began n completion)
  return n

/-- Submits the request of a call. A rejection concludes the operation at once. -/
def submit (act : Act) (c : Call) (completion : Completion) : Run Unit := do
  let n ← newOperation completion
  let now ← timeOfDay
  let a := c.adapter n completion
  match ← handOver c.service (some ⟨c.service, c.requestAt now⟩) (.adapter c.service a) with
  | .ok id =>
    count fun s => { s with submitted := Stats.bump s.submitted 1 }
    note (.submitted n id c.service)
  | .error (status, isForeign) =>
    count fun s => { s with rejected := Stats.bump s.rejected 1 }
    note (.rejected n c.service status)
    if isForeign then a.misdirect else a.reject act status

/-- Parks a completion under a name; one that was parked there is dropped. -/
def parkUnder (slot : String) (c : Completion) (slots : State → List (String × Completion))
    (put : List (String × Completion) → State → State) : Run Unit := do
  note (.initiated slot)
  let l := slots (← get)
  modify (put (assign slot c l))
  dropAny (l.lookup slot)

def Initiation.start (act : Act) (i : Initiation) (c : Completion) : Run Unit :=
  match i with
  | .call k => submit act k c
  | .park slot => parkUnder slot c State.slots fun l s => { s with slots := l }
  | .parkUnit slot => parkUnder slot c State.unitSlots fun l s => { s with unitSlots := l }
  | .immediate code value => do
    let result ← c.invoke act {} code (.number value)
    note (.completedAtOnce result)

def pump (act : Act) : Run (Except Failure Nat) := do
  match (← get).transport with
  | .loopback _ => Loopback.pump act
  | .prepared _ => Prepared.pump act

/-- One pass of the client. A failed pass of the transport ends it at once; otherwise a failure
that the catcher holds is handed out. -/
def runIterate (act : Act) : Run (Except Failure Nat) := do
  match ← pump act with
  | .error e => return .error e
  | .ok n =>
    count fun s =>
      { s with
        iterations := Stats.bump s.iterations 1
        callbacks := Stats.bump s.callbacks n }
    note (.passFinished n)
    match ← rethrow .client with
    | none => return .ok n
    | some e =>
      count fun s => { s with rethrown := Stats.bump s.rethrown 1 }
      note (.reported "run_iterate" e)
      return .error e

/-- The reading of the steady clock at which a wait ends. A time that cannot be represented in
64 bits of seconds never comes. -/
def deadline? (start : Nat) (timeout : Duration) : Option Nat :=
  let t := start + timeout.toNanos
  if ((t / 1000000000 : Nat) : Int) ≤ Int64.maxValue.toInt then some t else none

def hasCome : Option Nat → Run Bool
  | none => return false
  | some t => do return (← steadyTime) ≥ t

/-- Takes the outcome in a cell if it is there, gives up if the deadline has come, and goes on
otherwise. -/
def waitOr (cell : Nat) (deadline : Option Nat) (goOn : Run (Except Failure Payload)) :
    Run (Except Failure Payload) := do
  match ← takeOutcome cell with
  | some outcome => return outcome
  | none =>
    if ← hasCome deadline then
      note (.timedOut (← get).config.requestTimeout)
      return .error (.ofStatus .badTimeout)
    else goOn

def waitFor (act : Act) (cell : Nat) (deadline : Option Nat) :
    Nat → Run (Except Failure Payload)
  | 0 => waitOr cell deadline exhausted
  | passes + 1 => waitOr cell deadline do
    match ← runIterate act with
    | .error e => return .error e
    | .ok _ => waitFor act cell deadline passes

def wait (passes : Nat) (act : Act) (cell : Nat) : Run (Except Failure Payload) := do
  let start ← steadyTime
  waitFor act cell (deadline? start (← get).config.requestTimeout) passes

def dispatch (passes : Nat) (act : Act) (token : Token) (i : Initiation) : Run Answer :=
  match token with
  | .sync => do
    let cell ← newCell
    i.start act (.future cell)
    return .outcome (← wait passes act cell)
  | .future name => do
    let cell ← newCell
    i.start act (.future cell)
    modify fun s => { s with futures := assign name cell s.futures }
    return .started
  | .deferred name => do
    modify fun s => { s with deferred := assign name i s.deferred }
    return .started
  | .detached => do
    i.start act .nobody
    return .started
  | .handler h => do
    i.start act (.handler h)
    return .started

end OpcUa.Client
