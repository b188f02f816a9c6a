import Mathlib.Data.List.Forall2
import Mathlib.Data.Option.Basic
import OpcUa.Client.Session

/-!
Two sessions that are the same but for who watches one operation. Either of them may have a cell
that the other one has not, so their cells are numbered differently from there on, and futures of
hidden names are left to themselves. Everything else agrees, and goes on agreeing.
-/

namespace OpcUa.Client

open Run

/-- A cell that one of two sessions has and the other one has not, and the name of its future. -/
structure Extra where
  cell : Nat
  content : Cell
  name : Option String := none

/-- What sets two sessions apart: their extra cells, and the names of futures that nobody else
uses. -/
structure Pairing where
  hidden : List String
  left : Option Extra
  right : Option Extra

/-- The number that a cell of both sessions has in one of them. -/
def place (extra : Option Extra) (i : Nat) : Nat :=
  match extra with
  | none => i
  | some e => if i < e.cell then i else i + 1

/-- A session that has, besides `m` cells that it shares, its extra one. -/
structure Holds (hidden : List String) (m : Nat) (extra : Option Extra) (s : State) : Prop where
  size : s.cells.size = m + extra.toList.length
  own : ∀ e, extra = some e → e.cell ≤ m ∧ s.cells[e.cell]? = some e.content
  named : ∀ e name, extra = some e → e.name = some name →
    name ∈ hidden ∧ s.futures.lookup name = some e.cell

namespace Pairing

variable (P : Pairing)

/-- Two numbers of one cell, among the first `m` that both sessions have. -/
def Linked (m cell cell' : Nat) : Prop := ∃ i < m, cell = place P.left i ∧ cell' = place P.right i

inductive Completions (m : Nat) : Completion → Completion → Prop
  | future {cell cell' : Nat} (linked : P.Linked m cell cell') :
      Completions m (.future cell) (.future cell')
  | nobody : Completions m .nobody .nobody
  | handler (h : Handler) : Completions m (.handler h) (.handler h)

inductive Receivers (m : Nat) : Receiver → Receiver → Prop
  | adapter {service : Service} (a : Adapter (Response service)) {c : Completion}
      (told : P.Completions m a.completion c) :
      Receivers m (.adapter service a) (.adapter service { a with completion := c })
  | probe : Receivers m .probe .probe

inductive Requests (m : Nat) : Queued → Queued → Prop
  | intro (q : Queued) {r : Receiver} (told : P.Receivers m q.receiver r) :
      Requests m q { q with receiver := r }

/-- Two loopback transports with the same requests, but for the futures that are told. -/
structure Loopbacks (m : Nat) (l l' : Loopback) : Prop where
  rest : l' = { l with queue := l'.queue }
  queue : List.Forall₂ (P.Requests m) l.queue l'.queue

/-- Tables in which the same names stand for the same completions. -/
def Tables (m : Nat) (l l' : List (String × Completion)) : Prop :=
  ∀ slot, Option.Rel (P.Completions m) (l.lookup slot) (l'.lookup slot)

structure States (m : Nat) (s s' : State) : Prop where
  config : s'.config = s.config
  clocks : s'.clocks = s.clocks
  caught : s'.caught = s.caught
  spareCaught : s'.spareCaught = s.spareCaught
  stats : s'.stats = s.stats
  operations : s'.operations = s.operations
  deferred : s'.deferred = s.deferred
  transport : ∃ l l', s.transport = .loopback l ∧ s'.transport = .loopback l' ∧ P.Loopbacks m l l'
  cells : ∀ i < m, s'.cells[place P.right i]? = s.cells[place P.left i]?
  futures : ∀ name ∉ P.hidden,
    Option.Rel (P.Linked m) (s.futures.lookup name) (s'.futures.lookup name)
  slots : P.Tables m s.slots s'.slots
  unitSlots : P.Tables m s.unitSlots s'.unitSlots
  left : Holds P.hidden m P.left s
  right : Holds P.hidden m P.right s'

/-- What the first action comes to, the second comes to in a session that agrees, and then the two
sessions are related. There are at least `n` cells that both sessions have. -/
def Relates {α : Type} (n : Nat) (a a' : Run α) (R : Nat → State → State → Prop) : Prop :=
  ∀ m, n ≤ m → ∀ s s', P.States m s s' → ∀ x t, a s = some (x, t) →
    ∃ m' t', m ≤ m' ∧ a' s' = some (x, t') ∧ R m' t t'

/-- The two actions come to the same, and the sessions go on agreeing. -/
abbrev Agree {α : Type} (n : Nat) (a a' : Run α) : Prop := P.Relates n a a' P.States

end Pairing

/-! ### Cells -/

section
variable {extra : Option Extra} {i j m : Nat}

theorem place_some (e : Extra) (i : Nat) :
    place (some e) i = if i < e.cell then i else i + 1 := rfl

theorem place_inj : place extra i = place extra j ↔ i = j := by
  cases extra with
  | none => rfl
  | some e =>
    rw [place_some, place_some]
    split <;> split <;> omega

theorem place_ne {e : Extra} : place (some e) i ≠ e.cell := by
  rw [place_some]
  split <;> omega

namespace Holds

variable {hidden : List String} {s : State}

theorem bare (hidden : List String) (s : State) : Holds hidden s.cells.size none s :=
  ⟨rfl, by rintro e ⟨⟩, by rintro e name ⟨⟩⟩

theorem place_lt (h : Holds hidden m extra s) (isShared : i < m) :
    place extra i < s.cells.size := by
  rw [h.size]
  cases extra with
  | none => simpa [place] using isShared
  | some e =>
    rw [place_some, Option.toList_some, List.length_singleton]
    split <;> omega

theorem place_next (h : Holds hidden m extra s) : place extra m = s.cells.size := by
  rw [h.size]
  cases extra with
  | none => rfl
  | some e =>
    have before := (h.own e rfl).1
    rw [place_some, Option.toList_some, List.length_singleton]
    split <;> omega

theorem push (h : Holds hidden m extra s) (x : Cell) :
    Holds hidden (m + 1) extra { s with cells := s.cells.push x } where
  size := by
    rw [Array.size_push, h.size]
    omega
  own := by
    intro e some
    obtain ⟨before, content⟩ := h.own e some
    refine ⟨by omega, ?_⟩
    have isHere : e.cell < s.cells.size := (Array.getElem?_eq_some_iff.mp content).1
    rw [Array.getElem?_push_lt isHere, ← content, Array.getElem?_eq_getElem isHere]
  named := h.named

theorem set (h : Holds hidden m extra s) (i : Nat) (x : Cell) :
    Holds hidden m extra { s with cells := s.cells.setIfInBounds (place extra i) x } where
  size := by rw [Array.size_setIfInBounds, h.size]
  own := by
    rintro e rfl
    obtain ⟨before, content⟩ := h.own e rfl
    refine ⟨before, ?_⟩
    rw [Array.getElem?_setIfInBounds_ne place_ne, content]
  named := h.named

theorem renamed (h : Holds hidden m extra s) {l : List (String × Nat)}
    (same : ∀ name ∈ hidden, l.lookup name = s.futures.lookup name) :
    Holds hidden m extra { s with futures := l } where
  size := h.size
  own := h.own
  named := by
    intro e name some hasName
    obtain ⟨isHidden, found⟩ := h.named e name some hasName
    exact ⟨isHidden, (same name isHidden).trans found⟩

end Holds

theorem getElem?_set_place {cells : Array Cell} {x : Cell} (isHere : place extra i < cells.size) :
    (cells.setIfInBounds (place extra i) x)[place extra j]? =
      if j = i then some x else cells[place extra j]? := by
  rw [Array.getElem?_setIfInBounds]
  by_cases same : i = j
  · subst same
    simp [isHere]
  · have apart : place extra i ≠ place extra j := fun eq => same (place_inj.mp eq)
    simp [apart, Ne.symm same]

end

/-! ### Names -/

section
variable {α : Type} (name other : String) (a : α) (l : List (String × α))

theorem lookup_without :
    (without name l).lookup other = if other = name then none else l.lookup other := by
  unfold without
  induction l with
  | nil => simp
  | cons entry rest ih =>
    obtain ⟨key, b⟩ := entry
    by_cases dropped : key = name
    · subst dropped
      by_cases same : other = key
      · simpa [same] using ih
      · have differs : (other == key) = false := by simpa using same
        simp [List.lookup_cons, same, differs, ih]
    · by_cases same : other = key
      · subst same
        simp [dropped]
      · have differs : (other == key) = false := by simpa using same
        simp [dropped, List.lookup_cons, differs, ih]

theorem lookup_assign :
    (assign name a l).lookup other = if other = name then some a else l.lookup other := by
  unfold assign
  rw [List.lookup_cons]
  by_cases same : other = name
  · simp [same]
  · have differs : (other == name) = false := by simpa using same
    simp [differs, same, lookup_without]

end

end OpcUa.Client
