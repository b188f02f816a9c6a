import OpcUa.Client.Completion

/-!
The transport that follows prepared plans, one for each submission and one for each pass. It can
deliver whatever a transport may deliver at all.
-/

namespace OpcUa.Client

namespace PreparedResult

def as : PreparedResult → (s : Service) → s.Result
  | value v, .read => v
  | _, .read => {}
  | added r, .addNodes => r
  | _, .addNodes => {}
  | status c, .write | status c, .addReferences | status c, .deleteNodes
  | status c, .deleteReferences => c
  | _, .write | _, .addReferences | _, .deleteNodes | _, .deleteReferences => .good

end PreparedResult

namespace Prepared

/-- The response that a plan makes for a service. Without results it is an empty one. -/
def response (s : Service) (results : Option (List PreparedResult)) (serviceResult : StatusCode)
    (handle : UInt32) : Response s :=
  match results with
  | none => {}
  | some results => ⟨⟨handle, .epoch, serviceResult⟩, results.map (·.as s)⟩

def nextPlan (p : Prepared) : SubmitPlan × Prepared :=
  match p.plans with
  | [] => ({}, p)
  | plan :: rest => (plan, { p with plans := rest })

def nextPassPlan (p : Prepared) : PassPlan × Prepared :=
  match p.passPlans with
  | [] => ({}, p)
  | plan :: rest => (plan, { p with passPlans := rest })

/-- What becomes of a submission: an identifier, or a status and whether the context that comes
back is another one. -/
def submit (p : Prepared) (service : Service) (body : Option AnyRequest) (receiver : Receiver) :
    Except (StatusCode × Bool) UInt32 × Prepared :=
  let (plan, p) := p.nextPlan
  match plan.reject with
  | some status => (.error (status, plan.foreignContext), p)
  | none =>
    let q : Queued := ⟨p.nextRequestId, service, body, receiver⟩
    (.ok q.id,
      { p with queue := p.queue ++ [(q, plan.delivery)], nextRequestId := p.nextRequestId + 1 })

end Prepared

def State.prepared (s : State) : Prepared :=
  match s.transport with
  | .prepared p => p
  | .loopback _ => {}

open Run

namespace Prepared

def put (p : Prepared) : Run Unit := modify fun s => { s with transport := .prepared p }

/-- Delivers for one request as its plan says; tells how many callbacks were made. -/
def deliver (act : Act) (q : Queued) : Delivery → Run Nat
  | .response results serviceResult handle => do
    q.callBack act (some ⟨q.service, response q.service results serviceResult handle⟩)
    return 1
  | .absent | .wrongType => do
    q.callBack act none
    return 1
  | .foreignContext => do
    q.receiver.misdirect q.id q.service
    return 1
  | .dropped => do
    q.receiver.drop
    return 0
  | .held => do
    let p := (← get).prepared
    put { p with queue := p.queue ++ [(q, .held)] }
    return 0

/-- Delivers for requests one after another; tells how many callbacks were made. -/
def deliverAll (act : Act) : List (Queued × Delivery) → Run Nat
  | [] => return 0
  | (q, delivery) :: rest => do
    let n ← deliver act q delivery
    return n + (← deliverAll act rest)

def pump (act : Act) : Run (Except Failure Nat) := do
  let (plan, p) := (← get).prepared.nextPassPlan
  match plan.errorBefore with
  | some e =>
    put p
    return .error e
  | none =>
    put { p with queue := [] }
    let made ← deliverAll act (if plan.isReversed then p.queue.reverse else p.queue)
    match plan.errorAfter with
    | some e => return .error e
    | none => return .ok (plan.count.getD made)

end Prepared

end OpcUa.Client
