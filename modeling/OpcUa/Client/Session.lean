import OpcUa.Client.Dispatch
import OpcUa.Text.Quoted

/-!
Sessions: the result of every step, and the report of a run. Steps nest through handlers;
`perform` carries them out up to a given depth, which also bounds the passes of one wait, and
gives nothing if that does not suffice.
-/

namespace OpcUa.Client

open Run

/-! ### Steps without handlers -/

def actOnCatcher (desk : Desk) : CatcherAct → Run Answer
  | .store e => do
    note (.handedIn desk e)
    store desk e
    return .nothing
  | .look => do return .flag (← caught desk).isSome
  | .rethrow => do
    match ← rethrow desk with
    | none => return .outcome (.ok .nothing)
    | some e => return .outcome (.error e)
  | .catching ending value => do
    let code : Run (Except Failure Int64) := do
      match ending.outcome with
      | .ok () => return .ok value
      | .error e =>
        note (.handedIn desk e)
        return .error e
    return .kept (← catching desk code)
  | .catchPanic ending value => return .outcome (ending.outcome.map fun () => .number value)

def actOnSpace (now : Timestamp) (space : AddressSpace) : SpaceAct → Answer × AddressSpace
  | .read item => (.value (space.read now item), space)
  | .write item => let (status, space) := space.write now item; (.status status, space)
  | .addNode item => let (result, space) := space.addNode now item; (.added result, space)
  | .addReference item => let (status, space) := space.addReference item; (.status status, space)
  | .deleteNode item => let (status, space) := space.deleteNode item; (.status status, space)
  | .deleteReference item =>
    let (status, space) := space.deleteReference item
    (.status status, space)
  | .insertVariable parent id name value =>
    (.nothing, space.insertVariable parent id name value now)
  | .contains id => (.flag (space.contains id), space)
  | .hasReference source referenceType target =>
    (.flag (space.hasReference source referenceType target), space)
  | .node id => (.node (space.node? id), space)
  | .referencesFrom id => (.references (space.referencesFrom id), space)

def noteAdded : Answer → Run Unit
  | .added r => if r.status = .good then note (.nodeAdded r.addedId) else pure ()
  | _ => pure ()

def onSpace (act : SpaceAct) : Run Answer := do
  let now ← timeOfDay
  match (← get).transport with
  | .prepared _ => return .nothing
  | .loopback l =>
    let (answer, space) := actOnSpace now l.space act
    Loopback.put { l with space := space }
    noteAdded answer
    return answer

def onLoopback (f : Loopback → Loopback) : Run Unit := modify fun s =>
  match s.transport with
  | .loopback l => { s with transport := .loopback (f l) }
  | .prepared _ => s

def onPrepared (f : Prepared → Prepared) : Run Unit := modify fun s =>
  match s.transport with
  | .prepared p => { s with transport := .prepared (f p) }
  | .loopback _ => s

def setConnected (isConnected : Bool) : Run Unit := do
  match (← get).transport with
  | .loopback l =>
    note (if isConnected then .reopened else .closed l.queue.length)
    Loopback.put { l with isConnected := isConnected }
  | .prepared p => Prepared.put { p with isConnected := isConnected }

/-- Sets up a fault: the next submission will be rejected. -/
def failNextSubmit (status : StatusCode) : Run Unit := do
  match (← get).transport with
  | .loopback l =>
    note (.armed status)
    Loopback.put { l with failNext := some status }
  | .prepared _ => pure ()

/-- The result for a future: its cell, or that there is none of that name. -/
def withFuture (name : String) (f : Nat → Run Answer) : Run Answer := do
  match (← get).futures.lookup name with
  | some cell => f cell
  | none => return .missing .future

def lookAt (cell : Nat) : Run Answer := do
  match ← takeOutcome cell with
  | none => return .pending
  | some outcome => return .outcome outcome

def forgetFuture (name : String) : Run Unit :=
  modify fun s => { s with futures := without name s.futures }

/-- Lets go of what is parked under a name; tells whether an operation on numbers was. -/
def abandon (slot : String) : Run Answer := do
  let s ← get
  modify fun s => { s with slots := without slot s.slots, unitSlots := without slot s.unitSlots }
  dropAny (s.unitSlots.lookup slot)
  dropAny (s.slots.lookup slot)
  return .flag (s.slots.lookup slot).isSome

/-! ### Descriptions -/

def connectionText (isConnected : Bool) : String :=
  if isConnected then "Connected" else "Disconnected"

def counterText (name : String) (n : Nat) : String :=
  name ++ ": Cell \x7b value: " ++ Text.Decimal.ofNat n ++ " \x7d"

def Stats.describe (s : Stats) : String :=
  "ClientStats \x7b " ++ String.intercalate ", " [
    counterText "submitted" s.submitted, counterText "rejected" s.rejected,
    counterText "iterations" s.iterations, counterText "callbacks" s.callbacks,
    counterText "rethrown" s.rethrown] ++ " \x7d"

def State.describeClient (s : State) : String :=
  "Client \x7b endpoint: " ++ Text.Quoted.text s.config.endpoint ++ ", state: " ++
    connectionText s.transport.isConnected ++ ", stats: " ++ s.stats.describe ++ ", .. \x7d"

def Loopback.describe (l : Loopback) : String :=
  "LoopbackTransport \x7b state: " ++ connectionText l.isConnected ++ ", pending: " ++
    Text.Decimal.ofNat l.queue.length ++ ", max_pending: " ++ Text.Decimal.ofNat l.maxPending ++
    ", .. \x7d"

def contextText : String := "RawContext \x7b .. \x7d"

def rejectionText (status : StatusCode) : String :=
  "SubmitError \x7b status: " ++ status.debugText ++ ", context: " ++ contextText ++ " \x7d"

def callbackText : String := "CallbackAndContext \x7b context: " ++ contextText ++ ", .. \x7d"

def State.describe (s : State) : Subject → Answer
  | .client => .text s.describeClient
  | .transport =>
    match s.transport with
    | .loopback l => .text l.describe
    | .prepared _ => .nothing
  | .connection => .text (connectionText s.transport.isConnected)
  | .future name =>
    if (s.futures.lookup name).isSome then .text "OperationFuture \x7b .. \x7d"
    else .missing .future
  | .deferred name =>
    if (s.deferred.lookup name).isSome then .text "Deferred \x7b .. \x7d" else .missing .deferred

/-! ### Steps with handlers -/

structure Sample where
  value : Int64
  uses : Nat

/-- The adapter of a trial: it doubles the number, leaving zero, unless it ends badly. -/
def Trial.adapter (t : Trial) (h : Handler) : Adapter Sample where
  operation := none
  desk := .spare
  transform := fun r =>
    match t.transform.outcome with
    | .ok () => (.ok (.number (r.value + r.value)), ⟨0, r.uses + 1⟩)
    | .error e => (.error e, { r with uses := r.uses + 1 })
  fallback := .number 0
  completion := .handler h
  responseType := "i64"

def Trial.given (t : Trial) : Option Sample :=
  match t.delivery with
  | .number n => some ⟨n, 0⟩
  | .wrongType | .absent | .rejected _ => none

def Trial.deliver (act : Act) (t : Trial) (a : Adapter Sample) : Run (Option Sample) :=
  if t.foreignContext then do
    a.misdirect
    return t.given
  else
    match t.delivery with
    | .rejected status => do
      a.reject act status
      return none
    | _ => a.receive act t.requestId t.given

def Trial.run (act : Act) (t : Trial) (h : Handler) : Run Answer := do
  let rest ← t.deliver act (t.adapter h)
  let transforms := match rest with | some r => r.uses | none => 0
  return .trial ⟨transforms, rest.map Sample.value, (← caught .spare).isSome⟩

/-- The receiver of a request that is handed straight to the transport: an adapter that counts
what was read, or a probe. -/
def rawReceiver : Option Handler → Receiver
  | some h => .adapter .read
    { operation := none
      desk := .client
      transform := fun r => (.ok (.count r.results.length), r)
      fallback := .count 0
      completion := .handler h
      responseType := responseType .read }
  | none => .probe

/-- Carries out a step; `act` carries out the steps of handlers. -/
def perform1 (passes : Nat) (act : Act) : Step → Run Answer
  | .call c token => dispatch passes act token (.call c)
  | .start slot token => dispatch passes act token (.park slot)
  | .startUnit slot token => dispatch passes act token (.parkUnit slot)
  | .immediate code value token => dispatch passes act token (.immediate code value)
  | .launch name token => do
    match (← get).deferred.lookup name with
    | none => return .missing .deferred
    | some i =>
      modify fun s => { s with deferred := without name s.deferred }
      dispatch passes act token i
  | .tryAdapter trial h => trial.run act h
  | .submitRaw service body h => do
    let receiver := rawReceiver h
    match ← handOver service body receiver with
    | .ok id => return .accepted id
    | .error (status, _) =>
      receiver.drop
      return .refused status
  | .run => do return .outcome ((← runIterate act).map .count)
  | .pump => do
    note .pumping
    return .outcome ((← pump act).map .count)
  | .close => do
    setConnected false
    return .nothing
  | .reopen => do
    setConnected true
    return .nothing
  | .failNextSubmit status => do
    failNextSubmit status
    return .nothing
  | .dropNextResponse => do
    onLoopback fun l => { l with dropNext := true }
    return .nothing
  | .config => do return .config (← get).config
  | .describe subject => do return (← get).describe subject
  | .catcher desk a => actOnCatcher desk a
  | .take name | .poll name => withFuture name lookAt
  | .wait name => withFuture name fun cell => do
    forgetFuture name
    return .outcome (← wait passes act cell)
  | .forget name => withFuture name fun _ => do
    forgetFuture name
    return .nothing
  | .forgetDeferred name => do
    let isThere := ((← get).deferred.lookup name).isSome
    modify fun s => { s with deferred := without name s.deferred }
    return .flag isThere
  | .complete slot code value => do
    let s ← get
    match s.slots.lookup slot with
    | some c =>
      modify fun s => { s with slots := without slot s.slots }
      return .outcome ((← c.invoke act {} code (.number value)).map fun () => .nothing)
    | none =>
      match s.unitSlots.lookup slot with
      | some c =>
        modify fun s => { s with unitSlots := without slot s.unitSlots }
        return .outcome ((← c.invoke act {} code .nothing).map fun () => .nothing)
      | none => return .missing .slot
  | .abandon slot => abandon slot
  | .space a => onSpace a
  | .plan p => do
    onPrepared fun t => { t with plans := t.plans ++ [p] }
    return .nothing
  | .planPass p => do
    onPrepared fun t => { t with passPlans := t.passPlans ++ [p] }
    return .nothing

/-- Carries out a step whose handlers nest no deeper than `depth`. -/
def perform : Nat → Step → Run Answer
  | 0, _ => exhausted
  | depth + 1, step => perform1 depth (perform depth) step

/-! ### Runs -/

/-- What is reported of a step: its result, what happened meanwhile, and the state after it. -/
structure Report where
  answer : Answer
  occurrences : List Occurrence
  after : State

/-- What those who wrote the steps see of it; requests that came back to be looked at are seen
last. -/
def Report.visible (r : Report) : List Occurrence :=
  let seen := r.occurrences.filter Occurrence.isVisible
  seen.filter (!·.isProbe) ++ seen.filter (·.isProbe)

def Report.log (r : Report) : List LogLine := r.occurrences.filterMap Occurrence.logLine?

def State.start (config : Config) (transport : Transport) (clocks : Clocks) : State where
  config := config
  transport := transport
  clocks := clocks
  journal := #[.clientCreated config.endpoint config.applicationName]

/-- Carries out steps one after another, and reports each. `seen` is how much of the journal
belongs to earlier reports. -/
def playFrom (depth seen : Nat) (s : State) : List Step → Option (List Report)
  | [] => some []
  | step :: rest => do
    let (answer, s) ← (perform depth step).run s
    let reports ← playFrom depth s.journal.size s rest
    return ⟨answer, (s.journal.extract seen s.journal.size).toList, s⟩ :: reports

def play (depth : Nat) (s : State) (steps : List Step) : Option (List Report) :=
  playFrom depth 0 s steps

end OpcUa.Client
