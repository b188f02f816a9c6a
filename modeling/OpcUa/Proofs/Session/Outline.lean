import Mathlib.Logic.Function.Basic
import Mathlib.Logic.Relation
import OpcUa.Client.Session

/-!
What a session does, as moves of its outline. An outline keeps of a state what laws about whole runs
speak of, and adds what a state does not show: the passes that are going on, and the operations
whose outcome is on its way to their completion. Every part of the program makes only these moves.
-/

namespace OpcUa.Client

/-! ### Powers of application code -/

/-- What some laws deny to application code. -/
inductive Power
  /-- To have the transport make a pass. -/
  | pass
  /-- To take a failure out of the client's catcher. -/
  | rethrow
  /-- To change the address space other than by a request. -/
  | space
deriving DecidableEq

/-- Whether an act can change the address space. -/
def SpaceAct.changes : SpaceAct → Bool
  | .write _ | .addNode _ | .addReference _ | .deleteNode _ | .deleteReference _
  | .insertVariable .. => true
  | .read _ | .contains _ | .hasReference .. | .node _ | .referencesFrom _ => false

/-- The powers that waiting takes, for a token that waits. -/
def Token.needs : Token → List Power
  | .sync => [.pass, .rethrow]
  | .future _ | .deferred _ | .detached | .handler _ => []

/-- The powers that a step takes by itself, whatever the handlers do that it leads to. -/
def Step.needs : Step → List Power
  | .call _ token | .start _ token | .startUnit _ token | .immediate _ _ token
  | .launch _ token => token.needs
  | .run | .wait _ => [.pass, .rethrow]
  | .pump => [.pass]
  | .catcher .client .rethrow => [.rethrow]
  | .space act => if act.changes then [.space] else []
  | _ => []

/-! ### Occurrences -/

namespace Occurrence

/-- The failure that arrives at a catcher: a handler that runs inside it ends with an error or in a
panic, or the failure is handed in. -/
def arrival? : Occurrence → Option (Desk × Failure)
  | ended (some desk) (.error e) | handedIn desk e => some (desk, e)
  | ended (some desk) (.panic p) => some (desk, .panicked p.message)
  | _ => none

/-- What becomes of a failure that arrives at a catcher while it holds `held`. -/
def verdict (desk : Desk) (held : Option Failure) (e : Failure) : Occurrence :=
  match held with
  | none => failureStored desk e
  | some pending => failureDropped desk pending e

def desk? : Occurrence → Option Desk
  | ended (some desk) (.error _) | ended (some desk) (.panic _) | handedIn desk _
  | failureStored desk _ | failureDropped desk _ _ | failureRethrown desk _ => some desk
  | _ => none

/-- Whether an occurrence tells neither of an operation nor of a request, a pass, a catcher or the
connection. -/
def isPlain : Occurrence → Bool
  | clientCreated .. | mismatched _ | nodeAdded _ | unanswered _ | transformFailed .. | invoking ..
  | foreignContext _ | timedOut _ | called .. | ended none _ | ended _ .done | took _ | inside ..
  | probed .. | initiated _ | completedAtOnce _ | pumping => true
  | _ => false

def concluded? : Occurrence → Option (Nat × Completion)
  | concluded n c _ _ => some (n, c)
  | _ => none

theorem desk?_of_isPlain {o : Occurrence} (h : o.isPlain) : o.desk? = none := by
  cases o with
  | ended desk ending =>
    cases desk with
    | none => rfl
    | some desk => cases ending <;> first | rfl | cases h
  | _ => first | rfl | cases h

/-- What arrives at a catcher comes of a handler that fails inside it, or is handed in. -/
theorem arrival?_eq_some {o : Occurrence} {desk : Desk} {e : Failure}
    (h : o.arrival? = some (desk, e)) :
    o = ended (some desk) (.error e) ∨
      (∃ p, o = ended (some desk) (.panic p) ∧ e = .panicked p.message) ∨ o = handedIn desk e := by
  unfold arrival? at h
  split at h <;> cases h
  · exact .inl rfl
  · exact .inr (.inr rfl)
  · exact .inr (.inl ⟨_, rfl, rfl⟩)

theorem concluded?_of_isPlain {o : Occurrence} (h : o.isPlain) : o.concluded? = none := by
  unfold concluded?
  split
  · cases h
  · rfl

end Occurrence

/-! ### Outlines -/

/-- The operation that a request belongs to and the completion that is to conclude it, if it belongs
to one. -/
def Receiver.charge? : Receiver → Option (Nat × Completion)
  | .adapter _ a => a.operation.map fun n => (n, a.completion)
  | .probe => none

def Queued.charge? (q : Queued) : Option (Nat × Completion) := q.receiver.charge?

/-- A pass that is going on: whether the transport was open when it began, which requests it took
from the queue, and which of them it has still to come to. -/
structure Pass where
  isConnected : Bool
  ids : List UInt32
  rest : List Queued

def Transport.isLoopback : Transport → Bool
  | .loopback _ => true
  | .prepared _ => false

def State.held (s : State) : Desk → Option Failure
  | .client => s.caught
  | .spare => s.spareCaught

def State.history (s : State) : List Occurrence := s.journal.toList

/-- A session as laws about runs see it. -/
structure Outline where
  transport : Transport
  held : Desk → Option Failure
  operations : Nat
  stats : Stats
  history : List Occurrence
  /-- The passes that are going on, the innermost first. -/
  passes : List Pass
  /-- The operations whose outcome is on its way to their completion, the innermost first. -/
  due : List (Nat × Completion)

/-- The outline of a state within given passes and with given operations due. -/
def State.outline (s : State) (passes : List Pass) (due : List (Nat × Completion)) : Outline where
  transport := s.transport
  held := s.held
  operations := s.operations
  stats := s.stats
  history := s.history
  passes := passes
  due := due

theorem loopback_inj {t : Transport} {k l : Loopback} (h : t = .loopback k) (h' : t = .loopback l) :
    k = l :=
  Transport.loopback.inj (h.symm.trans h')

namespace Outline

def add (p : Outline) (os : List Occurrence) : Outline := { p with history := p.history ++ os }

def move (p : Outline) (l : Loopback) : Outline := { p with transport := .loopback l }

end Outline

/-! ### Moves -/

/-- What may be done to a loopback transport from outside, and what is told of it. -/
inductive Steering (l : Loopback) : Loopback → List Occurrence → Prop
  | close : Steering l { l with isConnected := false } [.closed l.queue.length]
  | reopen : Steering l { l with isConnected := true } [.reopened]
  | failNext (status : StatusCode) : Steering l { l with failNext := some status } [.armed status]
  | dropNext : Steering l { l with dropNext := true } []

/-- What a session can do at once. `may` tells which powers may be used within which passes. -/
inductive Move (may : Power → List Pass → Prop) (p : Outline) : Outline → Prop
  /-- Something happens that no law speaks of. -/
  | plain {o : Occurrence} (h : o.isPlain) : Move may p (p.add [o])
  /-- An operation is started, and its request accepted. -/
  | accept {l l' : Loopback} {s : Service} {body : Option AnyRequest} {r : Receiver} {id : UInt32}
      {c : Completion} (loopback : p.transport = .loopback l)
      (taken : l.submit s body r = (.ok id, l')) (own : r.charge? = some (p.operations, c)) :
      Move may p { p with
        transport := .loopback l'
        operations := p.operations + 1
        stats := { p.stats with submitted := Stats.bump p.stats.submitted 1 }
        history := p.history ++
          [.began p.operations c, .accepted id s body, .submitted p.operations id s] }
  /-- An operation is started, and its request rejected. -/
  | refuse {l l' : Loopback} {s : Service} {body : Option AnyRequest} {r : Receiver}
      {status : StatusCode} {c : Completion} (loopback : p.transport = .loopback l)
      (refused : l.submit s body r = (.error status, l'))
      (own : r.charge? = some (p.operations, c)) :
      Move may p { p with
        transport := .loopback l'
        operations := p.operations + 1
        stats := { p.stats with rejected := Stats.bump p.stats.rejected 1 }
        history := p.history ++
          [.began p.operations c, .refused s status, .rejected p.operations s status]
        due := (p.operations, c) :: p.due }
  /-- A request that belongs to no operation is accepted. -/
  | acceptOther {l l' : Loopback} {s : Service} {body : Option AnyRequest} {r : Receiver}
      {id : UInt32} (loopback : p.transport = .loopback l)
      (taken : l.submit s body r = (.ok id, l')) (own : r.charge? = none) :
      Move may p ((p.move l').add [.accepted id s body])
  /-- A request that belongs to no operation is rejected. -/
  | refuseOther {l l' : Loopback} {s : Service} {body : Option AnyRequest} {r : Receiver}
      {status : StatusCode} (loopback : p.transport = .loopback l)
      (refused : l.submit s body r = (.error status, l')) (own : r.charge? = none) :
      Move may p ((p.move l').add [.refused s status])
  /-- A pass takes the requests from the queue. -/
  | beginPass {l : Loopback} (loopback : p.transport = .loopback l) (allowed : may .pass p.passes) :
      Move may p { p with
        transport := .loopback { l with queue := [] }
        history := p.history ++ [.passBegan l.isConnected (l.queue.map Queued.id)]
        passes := ⟨l.isConnected, l.queue.map Queued.id, l.queue⟩ :: p.passes }
  /-- A pass on an open transport comes to a request, and its callback is invoked. -/
  | serve {l l' : Loopback} {ids : List UInt32} {q : Queued} {rest : List Queued}
      {outer : List Pass} {response : Option AnyResponse} {os : List Occurrence} (now : Timestamp)
      (loopback : p.transport = .loopback l) (passes : p.passes = ⟨true, ids, q :: rest⟩ :: outer)
      (answered : l.answer now q = (response, os, l')) :
      Move may p { p with
        transport := .loopback l'
        history := p.history ++
          (os ++ [.served q.id q.service q.body response, .calledBack q.id response])
        passes := ⟨true, ids, rest⟩ :: outer
        due := q.charge?.toList ++ p.due }
  /-- A pass on a closed transport comes to a request, and its callback is invoked. -/
  | abandon {l : Loopback} {ids : List UInt32} {q : Queued} {rest : List Queued}
      {outer : List Pass} (loopback : p.transport = .loopback l)
      (passes : p.passes = ⟨false, ids, q :: rest⟩ :: outer) :
      Move may p { p with
        history := p.history ++ [.calledBack q.id none]
        passes := ⟨false, ids, rest⟩ :: outer
        due := q.charge?.toList ++ p.due }
  | endPass {l : Loopback} {isConnected : Bool} {ids : List UInt32} {outer : List Pass}
      (loopback : p.transport = .loopback l) (passes : p.passes = ⟨isConnected, ids, []⟩ :: outer) :
      Move may p { p with
        history := p.history ++
          [if isConnected then .passServed ids.length else .passAbandoned ids.length]
        passes := outer }
  | conclude {n : Nat} {c : Completion} {status : StatusCode} {payload : Payload}
      {due : List (Nat × Completion)} (next : p.due = (n, c) :: due) :
      Move may p { p with history := p.history ++ [.concluded n c status payload], due := due }
  /-- A failure arrives at a catcher. -/
  | fail {o : Occurrence} {desk : Desk} {e : Failure} (arrives : o.arrival? = some (desk, e)) :
      Move may p { p with
        held := Function.update p.held desk (some ((p.held desk).getD e))
        history := p.history ++ [o, .verdict desk (p.held desk) e] }
  | rethrow {desk : Desk} {e : Failure} (holds : p.held desk = some e)
      (allowed : desk = .client → may .rethrow p.passes) :
      Move may p { p with
        held := Function.update p.held desk none
        history := p.history ++ [.failureRethrown desk e] }
  /-- A pass of the client comes to its end. -/
  | finish (n : Nat) :
      Move may p { p with
        stats := { p.stats with
          iterations := Stats.bump p.stats.iterations 1
          callbacks := Stats.bump p.stats.callbacks n }
        history := p.history ++ [.passFinished n] }
  /-- A pass of the client reports a failure. -/
  | report (context : String) (e : Failure) :
      Move may p { p with
        stats := { p.stats with rethrown := Stats.bump p.stats.rethrown 1 }
        history := p.history ++ [.reported context e] }
  /-- The transport is opened or closed, or a fault is set up. -/
  | steer {l l' : Loopback} {os : List Occurrence} (loopback : p.transport = .loopback l)
      (steering : Steering l l' os) : Move may p ((p.move l').add os)
  | change {l : Loopback} (space : AddressSpace) (loopback : p.transport = .loopback l)
      (allowed : may .space p.passes) : Move may p (p.move { l with space := space })
  /-- A prepared transport does something. -/
  | elsewhere {t t' : Prepared} {operations : Nat} {stats : Stats} {os : List Occurrence}
      {passes : List Pass} {due : List (Nat × Completion)} (prepared : p.transport = .prepared t)
      (apart : ∀ o ∈ os, o.desk? = none) :
      Move may p ⟨.prepared t', p.held, operations, stats, p.history ++ os, passes, due⟩

end OpcUa.Client
