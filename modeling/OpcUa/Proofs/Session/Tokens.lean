import OpcUa.Proofs.Session.Indifference
import OpcUa.Proofs.Session.Steps

/-!
What starting an operation does at once. The transport accepts or rejects the request; a rejection
is told to whoever asked for the outcome, and code of the application runs only if that is a
handler with steps of its own. The states that come of it are written out here.
-/

namespace OpcUa.Client

open Run

/-! ### Tokens that watch -/

/-- A token that asks for the outcome of its operation and does nothing else with it. -/
inductive Token.Watches : Token → Prop
  | sync : Watches .sync
  | future (name : String) : Watches (.future name)
  | detached : Watches .detached
  | handler {h : Handler} (quiet : ∀ status payload, h.react status payload = ([], .done)) :
      Watches (.handler h)

/-- A token that watches its operation and does not wait for it. -/
structure Token.Observes (token : Token) : Prop where
  watches : token.Watches
  waitless : token ≠ .sync

namespace Token

def addCell (cells : Array Cell) : Token → Array Cell
  | .sync | .future _ => cells.push .waiting
  | .deferred _ | .detached | .handler _ => cells

def fillCell (cell : Nat) (content : Cell) (cells : Array Cell) : Token → Array Cell
  | .sync | .future _ => cells.setIfInBounds cell content
  | .deferred _ | .detached | .handler _ => cells

def nameCell (cell : Nat) (futures : List (String × Nat)) : Token → List (String × Nat)
  | .future name => assign name cell futures
  | .sync | .deferred _ | .detached | .handler _ => futures

/-- What is noted of an outcome besides that its operation is concluded. -/
def heard (status : StatusCode) (payload : Payload) : Token → List Occurrence
  | .handler h =>
    [.called h.name status (if h.statusOnly then none else some payload),
      .ended (some .client) .done]
  | .sync | .future _ | .deferred _ | .detached => []

end Token

/-- The state in which a token has made its cell. -/
def State.armed (s : State) (token : Token) : State :=
  { s with
    cells := token.addCell s.cells
    futures := token.nameCell s.cells.size s.futures }

def State.filled (s : State) (token : Token) (cell : Nat) (content : Cell) : State :=
  { s with cells := token.fillCell cell content s.cells }

/-- The state in which the `n`-th operation is concluded, and a token has seen its outcome. -/
def State.told (s : State) (token : Token) (cell n : Nat) (status : StatusCode)
    (payload : Payload) : State :=
  { s.filled token cell (.ready (futureOutcome status payload)) with
    journal := (token.heard status payload).foldl Array.push
      (s.journal.push (.concluded n (token.completion cell) status payload)) }

/-- The state in which the steady clock was looked at some more times. -/
def State.later (s : State) (looks : Nat) : State :=
  { s with clocks := { s.clocks with steadyLooks := s.clocks.steadyLooks + looks } }

theorem conclude_told {act : Act} {ρ : Type} {a : Adapter ρ} {token : Token} {cell n : Nat}
    (watches : token.Watches) (asked : a.completion = token.completion cell)
    (own : a.operation = some n) (inside : a.desk = .client) (status : StatusCode)
    (payload : Payload) (s : State) :
    a.conclude act status payload s = some ((), s.told token cell n status payload) := by
  have invoked : (token.completion cell).invoke act ⟨some n, some .client⟩ status payload s =
      some (.ok (), s.told token cell n status payload) := by
    refine (bind_eq noteConcluded_run).trans ?_
    cases watches with
    | sync | future name | detached => rfl
    | @handler h quiet =>
      show h.call act (some .client) status payload _ = _
      unfold Handler.call
      rw [quiet]
      rfl
  have same : a.completion.invoke act a.occasion status payload s =
      some (.ok (), s.told token cell n status payload) := by
    unfold Adapter.occasion
    rw [asked, own, inside, invoked]
  exact bind_eq (bind_eq same)

/-! ### Submissions -/

namespace Loopback

def enqueue (l : Loopback) (q : Queued) : Loopback :=
  { l with queue := l.queue ++ [q], nextRequestId := nextId l.nextRequestId }

def Rejects (l : Loopback) (status : StatusCode) : Prop :=
  ∀ s body r, l.submit s body r = (.error status, { l with failNext := none })

def Accepts (l : Loopback) : Prop :=
  ∀ s body r, l.submit s body r = (.ok l.nextRequestId, l.enqueue ⟨l.nextRequestId, s, body, r⟩)

theorem submit_cases (l : Loopback) :
    (∃ status, l.Rejects status) ∨ (l.isConnected = true ∧ l.Accepts) := by
  cases faulty : l.failNext with
  | some status => exact .inl ⟨status, fun s body r => by simp [submit, faulty]⟩
  | none =>
    have same : { l with failNext := none } = l := by rw [← faulty]
    unfold Rejects
    rw [same]
    cases connected : l.isConnected with
    | false => exact .inl ⟨.badDisconnect, fun s body r => by simp [submit, faulty, connected]⟩
    | true =>
      cases full : l.isFull with
      | true =>
        exact .inl ⟨.badTooManyOperations, fun s body r => by
          simp [submit, faulty, connected, full]⟩
      | false =>
        exact .inr ⟨rfl, fun s body r => by simp [submit, faulty, connected, full, enqueue]⟩

end Loopback

/-- The state in which an operation has its number and its time. -/
def State.begun (s : State) (c : Completion) : State :=
  { s with
    operations := s.operations + 1
    clocks := { s.clocks with dayLooks := s.clocks.dayLooks + 1 }
    journal := s.journal.push (.began s.operations c) }

namespace Call

variable (k : Call)

def sent (s : State) : Option AnyRequest :=
  some ⟨k.service, k.requestAt (s.clocks.day s.clocks.dayLooks)⟩

def queued (c : Completion) (id : UInt32) (s : State) : Queued :=
  ⟨id, k.service, k.sent s, .adapter k.service (k.adapter s.operations c)⟩

/-- The state in which the request of a call is in the queue. -/
def accepted (c : Completion) (l : Loopback) (s : State) : State :=
  { s.begun c with
    transport := .loopback (l.enqueue (k.queued c l.nextRequestId s))
    stats := { s.stats with submitted := Stats.bump s.stats.submitted 1 }
    journal := ((s.begun c).journal.push (.accepted l.nextRequestId k.service (k.sent s))).push
      (.submitted s.operations l.nextRequestId k.service) }

/-- The state in which the request of a call is rejected, and nobody has been told yet. -/
def refused (c : Completion) (status : StatusCode) (l : Loopback) (s : State) : State :=
  { s.begun c with
    transport := .loopback { l with failNext := none }
    stats := { s.stats with rejected := Stats.bump s.stats.rejected 1 }
    journal := ((s.begun c).journal.push (.refused k.service status)).push
      (.rejected s.operations k.service status) }

/-- The state in which a token waits for a request that was accepted. -/
def acceptedFor (token : Token) (l : Loopback) (s : State) : State :=
  (k.accepted (token.completion s.cells.size) l s).armed token

end Call

theorem newCell_run (s : State) :
    newCell s = some (s.cells.size, { s with cells := s.cells.push .waiting }) := rfl

theorem begin_eq {α : Type} {f : Nat → Timestamp → Run α} {c : Completion} {s : State} :
    (do f (← newOperation c) (← timeOfDay)) s =
      f s.operations (s.clocks.day s.clocks.dayLooks) (s.begun c) := rfl

section
variable {act : Act} {k : Call} {c : Completion} {l : Loopback} {s : State}
  (loopback : s.transport = .loopback l)
include loopback

theorem submit_accepted (accepts : l.Accepts) :
    submit act k c s = some ((), k.accepted c l s) := by
  have handed : handOver k.service (k.sent s) (.adapter k.service (k.adapter s.operations c))
      (s.begun c) = some (.ok l.nextRequestId,
        { s.begun c with
          transport := .loopback (l.enqueue (k.queued c l.nextRequestId s))
          journal := (s.begun c).journal.push
            (.accepted l.nextRequestId k.service (k.sent s)) }) := by
    have same : (s.begun c).transport = .loopback l := loopback
    refine (bind_eq (y := s.begun c) (t := s.begun c) rfl).trans ?_
    unfold submitTo
    rw [same]
    dsimp only
    rw [accepts]
    rfl
  exact begin_eq.trans (bind_eq handed)

theorem submit_rejected {status : StatusCode} (rejects : l.Rejects status) :
    submit act k c s = (k.adapter s.operations c).conclude act status k.fallback
      (k.refused c status l s) := by
  have handed : handOver k.service (k.sent s) (.adapter k.service (k.adapter s.operations c))
      (s.begun c) = some (.error (status, false),
        { s.begun c with
          transport := .loopback { l with failNext := none }
          journal := (s.begun c).journal.push (.refused k.service status) }) := by
    refine handOver_error (e := (status, false)) ?_
    have same : (s.begun c).transport = .loopback l := loopback
    unfold submitTo
    rw [same]
    dsimp only
    rw [rejects]
  exact begin_eq.trans (bind_eq handed)

/-! ### Starting -/

variable {passes : Nat} {token : Token}

end

/-! ### Deferring -/

section
variable {act : Act} {passes : Nat} {k : Call} {s : State}

end

end OpcUa.Client
