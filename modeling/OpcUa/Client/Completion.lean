import OpcUa.Client.State

/-!
How outcomes reach those who asked for them. An adapter turns a response into a status and a
payload, and hands them to its completion inside a catcher, so that nothing that application code
does escapes to the transport. What application code does next is left to `act`, the way in which
its steps are carried out.
-/

namespace OpcUa.Client

abbrev Act := Step → Run Answer

open Run

def takeStep (act : Act) (step : Step) : Run Answer := do
  note (.took step)
  act step

def takeSteps (act : Act) : List Step → Run Unit
  | [] => pure ()
  | step :: rest => do
    let _ ← takeStep act step
    takeSteps act rest

def runSteps (act : Act) (name : String) : List Step → Run Unit
  | [] => pure ()
  | step :: rest => do
    let answer ← takeStep act step
    note (.inside name answer)
    runSteps act name rest

/-- On what occasion a completion is invoked: whether it concludes an operation on the server, and
inside which catcher it runs, if inside one. -/
structure Occasion where
  operation : Option Nat := none
  desk : Option Desk := none

def Handler.call (act : Act) (h : Handler) (desk : Option Desk) (status : StatusCode)
    (payload : Payload) : Run (Except Failure Unit) := do
  note (.called h.name status (if h.statusOnly then none else some payload))
  let (steps, ending) := h.react status payload
  runSteps act h.name steps
  note (.ended desk ending)
  return ending.outcome

/-- The outcome that a future shows: a bad status is a failure. -/
def futureOutcome (status : StatusCode) (payload : Payload) : Except Failure Payload :=
  if status.isBad then .error (.ofStatus status) else .ok payload

def Occasion.noteConcluded (on : Occasion) (c : Completion) (status : StatusCode)
    (payload : Payload) : Run Unit :=
  match on.operation with
  | some n => note (.concluded n c status payload)
  | none => pure ()

def Completion.invoke (act : Act) (c : Completion) (on : Occasion) (status : StatusCode)
    (payload : Payload) : Run (Except Failure Unit) := do
  on.noteConcluded c status payload
  match c with
  | .future cell =>
    setCell cell (.ready (futureOutcome status payload))
    return .ok ()
  | .nobody => return .ok ()
  | .handler h => h.call act on.desk status payload

namespace Adapter

variable {ρ : Type}

/-- The status that stands for a failed transform: a status of its own, or an internal error. -/
def failureStatus : Failure → StatusCode
  | .badStatus code => code
  | .disconnected => .badDisconnect
  | .user _ | .panicked _ | .configuration _ => .badInternalError

def occasion (a : Adapter ρ) : Occasion := ⟨a.operation, some a.desk⟩

/-- Invokes the completion inside the catcher. -/
def conclude (act : Act) (a : Adapter ρ) (status : StatusCode) (payload : Payload) : Run Unit := do
  let _ ← catching a.desk (a.completion.invoke act a.occasion status payload)

def receive (act : Act) (a : Adapter ρ) (id : UInt32) (response : Option ρ) : Run (Option ρ) := do
  match response with
  | none =>
    note (.unanswered id)
    note (.invoking id .badInternalError)
    a.conclude act .badInternalError a.fallback
    return none
  | some r =>
    takeSteps act (a.during r)
    match a.transform r with
    | (.ok payload, rest) =>
      note (.invoking id .good)
      a.conclude act .good payload
      return some rest
    | (.error e, rest) =>
      note (.transformFailed id (failureStatus e) e)
      note (.invoking id (failureStatus e))
      a.conclude act (failureStatus e) a.fallback
      return some rest

def reject (act : Act) (a : Adapter ρ) (status : StatusCode) : Run Unit :=
  a.conclude act status a.fallback

/-- The callback comes with a context that is not its own: the operation cannot complete. -/
def misdirect (a : Adapter ρ) : Run Unit := do
  note (.foreignContext a.responseType)
  drop a.completion

end Adapter

namespace Receiver

/-- Takes a response, or its absence. A response of another service counts as absent. -/
def receive (act : Act) (r : Receiver) (id : UInt32) (response : Option AnyResponse) : Run Unit :=
  match r with
  | .adapter s a => do
    let _ ← a.receive act id (response.bind (·.as? s))
  | .probe => note (.probed id (response.map (·.1)))

def reject (act : Act) (r : Receiver) (status : StatusCode) : Run Unit :=
  match r with
  | .adapter _ a => a.reject act status
  | .probe => pure ()

def misdirect (r : Receiver) (id : UInt32) (response : Service) : Run Unit :=
  match r with
  | .adapter _ a => a.misdirect
  | .probe => note (.probed id (some response))

def drop (r : Receiver) : Run Unit :=
  match r with
  | .adapter _ a => Run.drop a.completion
  | .probe => pure ()

end Receiver

def Queued.callBack (act : Act) (q : Queued) (response : Option AnyResponse) : Run Unit := do
  note (.calledBack q.id response)
  q.receiver.receive act q.id response

end OpcUa.Client
