import OpcUa.Proofs.Session.ExactlyOnce

/-!
What the counters of a client count. A history is read with the passes that are going on: a pass is
the client's own, over an open or over a closed transport, or it was asked of the transport itself.
Every action accounts for what it adds to the history: the counters grow by the client's passes over
an open transport and by the callbacks in them, and by nothing else.
-/

namespace OpcUa.Client

open Run

/-- What a pass is to a client. -/
inductive Nature
  /-- The client's own, over an open transport. -/
  | served
  /-- The client's own, over a closed transport. -/
  | abandoned
  /-- Asked of the transport itself. -/
  | direct
deriving DecidableEq, Repr

/-- What a pass is, if it was asked of the transport itself or not, over an open transport or not. -/
def Nature.of (asked isConnected : Bool) : Nature :=
  if asked then .direct else if isConnected then .served else .abandoned

/-- The passes and callbacks of a history, as far as it has been read. -/
structure Tally where
  /-- Whether the next pass is asked of the transport itself. -/
  asked : Bool := false
  /-- The passes that are going on, the innermost first. -/
  passing : List Nature := []
  /-- The passes that have begun, in order. -/
  passes : List Nature := []
  /-- The passes in which callbacks were invoked, one for each callback, in order. -/
  callbacks : List Nature := []

namespace Tally

def read (tally : Tally) : Occurrence → Tally
  | .pumping => { tally with asked := true }
  | .passBegan isConnected _ =>
    let nature := Nature.of tally.asked isConnected
    { asked := false
      passing := nature :: tally.passing
      passes := tally.passes ++ [nature]
      callbacks := tally.callbacks }
  | .passServed _ | .passAbandoned _ => { tally with passing := tally.passing.tail }
  | .calledBack .. => { tally with callbacks := tally.callbacks ++ tally.passing.head?.toList }
  | _ => tally

def readAll (tally : Tally) (os : List Occurrence) : Tally := os.foldl read tally

def more (tally : Tally) (passes callbacks : List Nature) : Tally :=
  { tally with passes := tally.passes ++ passes, callbacks := tally.callbacks ++ callbacks }

end Tally

/-- What the passes of a history were, in order. -/
def passesIn (os : List Occurrence) : List Nature := (Tally.readAll {} os).passes

/-- For each callback of a history, in order, what the pass was in which it was invoked. -/
def callbacksIn (os : List Occurrence) : List Nature := (Tally.readAll {} os).callbacks

namespace Occurrence

def isAccepted : Occurrence → Bool
  | accepted .. => true
  | _ => false

def isSubmitted : Occurrence → Bool
  | submitted .. => true
  | _ => false

/-- Whether an occurrence tells of a pass, a callback or a request that the transport accepted. -/
def isCounted : Occurrence → Bool
  | pumping | passBegan .. | passServed _ | passAbandoned _ | calledBack .. | accepted ..
  | submitted .. => true
  | _ => false

def isPassEnd : Occurrence → Bool
  | passServed _ | passAbandoned _ => true
  | _ => false

end Occurrence

def capped (n : Nat) : Nat := min n (UInt64.size - 1)

/-- What happens between two states of a session over the loopback transport, and how far the
counters go on in it. -/
structure Counts (s t : State) (os : List Occurrence) (iterations callbacks : Nat) : Prop where
  loopback : t.transport.isLoopback = true
  history : t.history = s.history ++ os
  iterations : ∀ n, s.stats.iterations = capped n → t.stats.iterations = capped (n + iterations)
  callbacks : ∀ n, s.stats.callbacks = capped n → t.stats.callbacks = capped (n + callbacks)
  submitted : ∀ n, s.stats.submitted = capped n →
    t.stats.submitted = capped (n + os.countP Occurrence.isSubmitted)

/-- What happens between two states is accounted for: the passes that begin in it, the callbacks
that are invoked in these, and the number of callbacks of the pass `own` that is going on. -/
structure Accounts (own : Nature) (calls : Nat) (s t : State) (os : List Occurrence)
    (passes nested : List Nature) : Prop
    extends Counts s t os (passes.count .served) (nested.count .served) where
  reads : ∀ tally : Tally, tally.asked = false → (calls ≠ 0 → tally.passing.head? = some own) →
    ∃ callbacks, callbacks.Perm (nested ++ List.replicate calls own) ∧
      tally.readAll os = tally.more passes callbacks
  pending : t.transport.pending + nested.length =
    s.transport.pending + os.countP Occurrence.isAccepted

/-- What happens between two states can be accounted for, with a number of callbacks of the pass
that is going on. -/
def Calls (own : Nature) (calls : Nat) (s t : State) : Prop :=
  s.transport.isLoopback = true → ∃ os passes nested, Accounts own calls s t os passes nested

/-- An action can be accounted for, within any pass. -/
def Accountable {α : Type} (a : Run α) : Prop :=
  ∀ s x t, a s = some (x, t) → ∀ own, Calls own 0 s t

/-! ### Reading -/

namespace Tally

theorem readAll_append (tally : Tally) (a b : List Occurrence) :
    tally.readAll (a ++ b) = (tally.readAll a).readAll b :=
  List.foldl_append

theorem more_more (tally : Tally) (passes passes' callbacks callbacks' : List Nature) :
    (tally.more passes callbacks).more passes' callbacks' =
      tally.more (passes ++ passes') (callbacks ++ callbacks') := by
  simp [more]

theorem more_nil (tally : Tally) : tally.more [] [] = tally := by
  simp [more]

theorem read_uncounted {o : Occurrence} (h : o.isCounted = false) (tally : Tally) :
    tally.read o = tally := by
  cases o <;> first | rfl | cases h

theorem readAll_uncounted {os : List Occurrence} (h : ∀ o ∈ os, o.isCounted = false)
    (tally : Tally) : tally.readAll os = tally := by
  induction os with
  | nil => rfl
  | cons o os ih =>
    have first : tally.readAll (o :: os) = (tally.read o).readAll os := rfl
    rw [first, read_uncounted (h o List.mem_cons_self)]
    exact ih fun o member => h o (List.mem_cons_of_mem _ member)

theorem read_passEnd {o : Occurrence} (h : o.isPassEnd = true) (tally : Tally) :
    tally.read o = { tally with passing := tally.passing.tail } := by
  cases o <;> first | rfl | cases h

end Tally

/-! ### Accounts -/

theorem capped_bump (n k : Nat) : Stats.bump (capped n) k = capped (n + k) := by
  unfold Stats.bump capped
  omega

theorem countP_uncounted {os : List Occurrence} (h : ∀ o ∈ os, o.isCounted = false) :
    os.countP Occurrence.isAccepted = 0 ∧ os.countP Occurrence.isSubmitted = 0 := by
  simp only [List.countP_eq_zero]
  constructor
  · intro o member
    have uncounted := h o member
    cases o <;> simp_all [Occurrence.isCounted, Occurrence.isAccepted]
  · intro o member
    have uncounted := h o member
    cases o <;> simp_all [Occurrence.isCounted, Occurrence.isSubmitted]

theorem countP_passEnd {o : Occurrence} (h : o.isPassEnd = true) :
    [o].countP Occurrence.isAccepted = 0 ∧ [o].countP Occurrence.isSubmitted = 0 := by
  cases o <;> first | exact ⟨rfl, rfl⟩ | cases h

theorem Counts.trans {s t u : State} {os os' : List Occurrence}
    {iterations iterations' callbacks callbacks' : Nat} (first : Counts s t os iterations callbacks)
    (later : Counts t u os' iterations' callbacks') :
    Counts s u (os ++ os') (iterations + iterations') (callbacks + callbacks') where
  loopback := later.loopback
  history := by rw [later.history, first.history, List.append_assoc]
  iterations := fun n before => by
    rw [later.iterations _ (first.iterations n before), Nat.add_assoc]
  callbacks := fun n before => by
    rw [later.callbacks _ (first.callbacks n before), Nat.add_assoc]
  submitted := fun n before => by
    rw [later.submitted _ (first.submitted n before), List.countP_append, Nat.add_assoc]

theorem Counts.still {s t : State} {os : List Occurrence} (loopback : t.transport.isLoopback = true)
    (stats : t.stats = s.stats) (history : t.history = s.history ++ os)
    (h : os.countP Occurrence.isSubmitted = 0) : Counts s t os 0 0 where
  loopback := loopback
  history := history
  iterations := fun n before => by rw [stats, before]; rfl
  callbacks := fun n before => by rw [stats, before]; rfl
  submitted := fun n before => by rw [stats, before, h]; rfl

theorem Accounts.uncounted {own : Nature} {s t : State} {os : List Occurrence}
    (loopback : t.transport.isLoopback = true) (pending : t.transport.pending = s.transport.pending)
    (iterations : t.stats.iterations = s.stats.iterations)
    (callbacks : t.stats.callbacks = s.stats.callbacks)
    (submitted : t.stats.submitted = s.stats.submitted) (history : t.history = s.history ++ os)
    (h : ∀ o ∈ os, o.isCounted = false) : Accounts own 0 s t os [] [] where
  loopback := loopback
  history := history
  reads := fun tally _ _ =>
    ⟨[], .refl _, by rw [Tally.readAll_uncounted h, Tally.more_nil]⟩
  iterations := fun n before => by rw [iterations, before]; rfl
  callbacks := fun n before => by rw [callbacks, before]; rfl
  submitted := fun n before => by rw [submitted, before, (countP_uncounted h).2]; rfl
  pending := by rw [pending, (countP_uncounted h).1]; rfl

theorem Accounts.trans {own : Nature} {calls calls' : Nat} {s t u : State}
    {os os' : List Occurrence} {passes passes' nested nested' : List Nature}
    (first : Accounts own calls s t os passes nested)
    (later : Accounts own calls' t u os' passes' nested') :
    Accounts own (calls + calls') s u (os ++ os') (passes ++ passes') (nested ++ nested') where
  toCounts := by
    rw [List.count_append, List.count_append]
    exact first.toCounts.trans later.toCounts
  reads := by
    intro tally quiet within
    obtain ⟨callbacks, made, read⟩ := first.reads tally quiet fun some => within (by omega)
    obtain ⟨callbacks', made', read'⟩ :=
      later.reads (tally.more passes callbacks) quiet fun some => within (by omega)
    refine ⟨callbacks ++ callbacks', ?_, ?_⟩
    · refine (made.append made').trans ?_
      rw [List.perm_iff_count]
      intro nature
      simp only [List.count_append, List.count_replicate]
      split <;> omega
    · rw [Tally.readAll_append, read, read', Tally.more_more]
  pending := by
    have one := first.pending
    have two := later.pending
    rw [List.countP_append, List.length_append]
    omega

namespace Calls

variable {own : Nature} {calls calls' : Nat} {s t u : State}

theorem trans (first : Calls own calls s t) (later : Calls own calls' t u) :
    Calls own (calls + calls') s u := by
  intro kind
  obtain ⟨os, passes, nested, one⟩ := first kind
  obtain ⟨os', passes', nested', two⟩ := later one.loopback
  exact ⟨_, _, _, one.trans two⟩

theorem then_none (first : Calls own calls s t) (later : Calls own 0 t u) : Calls own calls s u :=
  first.trans later

theorem none_then (first : Calls own 0 s t) (later : Calls own calls t u) :
    Calls own calls s u := by
  simpa using first.trans later

/-- Actions that an outline shows as nothing but occurrences that are not counted. -/
theorem of_outline {os : List Occurrence} {q : Outline} (same : t.outline [] [] = q)
    (kind : q.transport.isLoopback = s.transport.isLoopback)
    (pending : q.transport.pending = s.transport.pending)
    (iterations : q.stats.iterations = s.stats.iterations)
    (callbacks : q.stats.callbacks = s.stats.callbacks)
    (submitted : q.stats.submitted = s.stats.submitted) (history : q.history = s.history ++ os)
    (h : ∀ o ∈ os, o.isCounted = false) : Calls own 0 s t := by
  subst same
  intro isLoopback
  exact ⟨os, [], [], .uncounted (kind.trans isLoopback) pending iterations callbacks submitted
    history h⟩

end Calls

end OpcUa.Client
