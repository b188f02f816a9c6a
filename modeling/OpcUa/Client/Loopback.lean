import OpcUa.Client.Completion

/-!
The transport that answers from an address space. Submissions queue up; a pass answers the
requests that were queued when it began, in their order, and those that handlers submit meanwhile
wait for the next pass. On a closed transport a pass abandons its requests.
-/

namespace OpcUa.Client

namespace Loopback

/-- Whether no more requests may be queued. -/
def isFull (l : Loopback) : Bool := l.maxPending != 0 && l.queue.length ≥ l.maxPending

/-- The request identifier after another; zero is passed over. -/
def nextId (id : UInt32) : UInt32 := if id + 1 = 0 then 1 else id + 1

/-- Accepts a request or rejects it. A status that was set for the next submission comes first,
then a lost connection, then a full queue. -/
def submit (l : Loopback) (service : Service) (body : Option AnyRequest) (receiver : Receiver) :
    Except StatusCode UInt32 × Loopback :=
  match l.failNext with
  | some status => (.error status, { l with failNext := none })
  | none =>
    if !l.isConnected then (.error .badDisconnect, l)
    else if l.isFull then (.error .badTooManyOperations, l)
    else
      (.ok l.nextRequestId,
        { l with
          queue := l.queue ++ [⟨l.nextRequestId, service, body, receiver⟩]
          nextRequestId := nextId l.nextRequestId })

def addedNodes : AnyResponse → List NodeId
  | ⟨.addNodes, r⟩ =>
    (r.results.filter fun (x : AddNodeResult) => x.status == .good).map AddNodeResult.addedId
  | _ => []

/-- What the server gives for a request, and what happens on the way. A withheld response leaves
the address space alone; so does a request that is not of its service's type. -/
def answer (l : Loopback) (now : Timestamp) (q : Queued) :
    Option AnyResponse × List Occurrence × Loopback :=
  if l.dropNext then (none, [], { l with dropNext := false })
  else
    match q.body with
    | some ⟨s, request⟩ =>
      if s = q.service then
        let (response, space) := l.space.serve now request
        let any : AnyResponse := ⟨s, response⟩
        (some any, (addedNodes any).map .nodeAdded, { l with space := space })
      else (none, [.mismatched q.service], l)
    | none => (none, [.mismatched q.service], l)

end Loopback

def State.loopback (s : State) : Loopback :=
  match s.transport with
  | .loopback l => l
  | .prepared _ => {}

open Run

namespace Loopback

def put (l : Loopback) : Run Unit := modify fun s => { s with transport := .loopback l }

def serve (act : Act) (q : Queued) : Run Unit := do
  let now ← timeOfDay
  let (response, occurrences, l) := (← get).loopback.answer now q
  put l
  noteAll occurrences
  note (.served q.id q.service q.body response)
  q.callBack act response

def serveAll (act : Act) : List Queued → Run Unit
  | [] => pure ()
  | q :: rest => do
    serve act q
    serveAll act rest

def abandonAll (act : Act) : List Queued → Run Unit
  | [] => pure ()
  | q :: rest => do
    q.callBack act none
    abandonAll act rest

/-- One pass: the number of requests that were answered, or the failure of a closed transport. -/
def pump (act : Act) : Run (Except Failure Nat) := do
  let l := (← get).loopback
  put { l with queue := [] }
  note (.passBegan l.isConnected (l.queue.map Queued.id))
  if l.isConnected then
    serveAll act l.queue
    note (.passServed l.queue.length)
    return .ok l.queue.length
  else
    abandonAll act l.queue
    note (.passAbandoned l.queue.length)
    return .error .disconnected

end Loopback

end OpcUa.Client
