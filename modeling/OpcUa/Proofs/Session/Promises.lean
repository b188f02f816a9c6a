import OpcUa.Proofs.Session.Balance
import OpcUa.Proofs.Session.Observers

/-!
No future is forgotten. A future without an outcome is told by a request that is queued, by a parked
completion, or by code that is under way; once told, it has its outcome or is given up, and does not
wait again. A pass owes what the requests that it has taken are to tell.
-/

namespace OpcUa.Client

open Run

/-! ### Who is told -/

def Completion.cell? : Completion → Option Nat
  | future cell => some cell
  | nobody | handler _ => none

def Receiver.cell? : Receiver → Option Nat
  | adapter _ a => a.completion.cell?
  | probe => none

/-- Some completion that is parked under a name fills a cell. -/
def Parked (l : List (String × Completion)) (cell : Nat) : Prop :=
  ∃ slot c, l.lookup slot = some c ∧ c.cell? = some cell

namespace State

def Waits (s : State) (cell : Nat) : Prop := s.cells[cell]? = some .waiting

def Queues (s : State) (cell : Nat) : Prop :=
  ∃ q ∈ s.loopback.queue, q.receiver.cell? = some cell

def Parks (s : State) (cell : Nat) : Prop := Parked s.slots cell ∨ Parked s.unitSlots cell

/-- Every future without an outcome is told by what is queued or parked, but for those that code
under way is to tell. -/
def Covered (s : State) (owed : List Nat) : Prop :=
  ∀ cell, s.Waits cell → cell ∈ owed ∨ s.Queues cell ∨ s.Parks cell

end State

/-- No future that has its outcome, or was given up, waits again. -/
structure Forward (s t : State) : Prop where
  isLoopback : t.transport.isLoopback = true
  size : s.cells.size ≤ t.cells.size
  waits : ∀ cell, cell < s.cells.size → t.Waits cell → s.Waits cell

/-- Code over the loopback transport tells what it owes, and forgets no future. -/
def Pays {α : Type} (owed : List Nat) (a : Run α) : Prop :=
  ∀ s x t, s.transport.isLoopback = true → a s = some (x, t) →
    Forward s t ∧ ∀ others, s.Covered (owed ++ others) → t.Covered others

/-- The second state comes from the first without touching futures, transport or slots. -/
structure Aside (s t : State) : Prop where
  transport : t.transport = s.transport
  cells : t.cells = s.cells
  slots : t.slots = s.slots
  unitSlots : t.unitSlots = s.unitSlots

section
variable {s t : State} {owed : List Nat}

theorem State.Covered.more (covered : s.Covered owed) {owed' : List Nat} (more : owed ⊆ owed') :
    s.Covered owed' := by
  intro cell waits
  rcases covered cell waits with own | kept
  · exact .inl (more own)
  · exact .inr kept

/-- What waits later waited before, and whoever was to tell it still is, or owes it. -/
theorem State.Covered.carry {owed' : List Nat} (covered : s.Covered owed)
    (waits : ∀ cell, t.Waits cell → s.Waits cell)
    (owes : ∀ cell ∈ owed, t.Waits cell → cell ∈ owed' ∨ t.Queues cell ∨ t.Parks cell)
    (queues : ∀ cell, s.Queues cell → cell ∈ owed' ∨ t.Queues cell)
    (parks : ∀ cell, s.Parks cell → cell ∈ owed' ∨ t.Parks cell) : t.Covered owed' := by
  intro cell waiting
  rcases covered cell (waits cell waiting) with own | queued | parked
  · exact owes cell own waiting
  · rcases queues cell queued with own | still
    · exact .inl own
    · exact .inr (.inl still)
  · rcases parks cell parked with own | still
    · exact .inl own
    · exact .inr (.inr still)

theorem State.Waits.known {cell : Nat} (waits : s.Waits cell) : cell < s.cells.size :=
  (Array.getElem?_eq_some_iff.mp waits).1

theorem Forward.known {cell : Nat} (forward : Forward s t) (known : cell < s.cells.size) :
    cell < t.cells.size :=
  Nat.lt_of_lt_of_le known forward.size

theorem Forward.trans {u : State} (first : Forward s t) (later : Forward t u) : Forward s u where
  isLoopback := later.isLoopback
  size := Nat.le_trans first.size later.size
  waits := by
    intro cell known waits
    exact first.waits cell known (later.waits cell (first.known known) waits)

theorem Forward.of_cells (kind : t.transport.isLoopback = true) (same : t.cells = s.cells) :
    Forward s t where
  isLoopback := kind
  size := Nat.le_of_eq (congrArg Array.size same.symm)
  waits := by
    intro cell _ waits
    unfold State.Waits at waits
    rwa [same] at waits

theorem Aside.forward (aside : Aside s t) (kind : s.transport.isLoopback = true) : Forward s t :=
  .of_cells (aside.transport ▸ kind) aside.cells

theorem Aside.covered (aside : Aside s t) (covered : s.Covered owed) : t.Covered owed := by
  have loopback : t.loopback = s.loopback := by
    unfold State.loopback
    rw [aside.transport]
  refine covered.carry ?_ (fun cell own _ => .inl own) ?_ ?_
  · intro cell waits
    unfold State.Waits at waits
    rwa [aside.cells] at waits
  · intro cell queued
    unfold State.Queues
    rw [loopback]
    exact .inr queued
  · intro cell parked
    unfold State.Parks
    rw [aside.slots, aside.unitSlots]
    exact .inr parked

end

/-! ### Parking -/

section
variable {l : List (String × Completion)} {cell : Nat}

/-- The cells that a parked completion fills. -/
def cellsUnder (name : String) (l : List (String × Completion)) : List Nat :=
  ((l.lookup name).bind Completion.cell?).toList

theorem cellsUnder_of {name : String} {c : Completion} (found : l.lookup name = some c) :
    cellsUnder name l = c.cell?.toList := by
  simp [cellsUnder, found]

theorem parked_without (name : String) (parked : Parked l cell) :
    cell ∈ cellsUnder name l ∨ Parked (without name l) cell := by
  obtain ⟨slot, c, found, tells⟩ := parked
  by_cases same : slot = name
  · subst same
    exact .inl (by simp [cellsUnder_of found, tells])
  · refine .inr ⟨slot, c, ?_, tells⟩
    rw [lookup_without, if_neg same]
    exact found

theorem parked_assign (name : String) (a : Completion) (parked : Parked l cell) :
    cell ∈ cellsUnder name l ∨ Parked (assign name a l) cell := by
  obtain ⟨slot, c, found, tells⟩ := parked
  by_cases same : slot = name
  · subst same
    exact .inl (by simp [cellsUnder_of found, tells])
  · refine .inr ⟨slot, c, ?_, tells⟩
    rw [lookup_assign, if_neg same]
    exact found

theorem parked_assign_self (name : String) {a : Completion} (tells : a.cell? = some cell) :
    Parked (assign name a l) cell :=
  ⟨name, a, by rw [lookup_assign, if_pos rfl], tells⟩

end

/-! ### Small actions -/

namespace Pays

variable {α β : Type} {owed owed' : List Nat}

theorem of_aside {a : Run α} (h : ∀ s x t, a s = some (x, t) → Aside s t) : Pays [] a := by
  intro s x t kind run
  have aside := h s x t run
  exact ⟨aside.forward kind, fun others covered => aside.covered covered⟩

theorem of_pure (x : α) : Pays [] (pure x : Run α) := by
  refine of_aside fun s y t run => ?_
  obtain ⟨-, rfl⟩ := pure_some run
  exact ⟨rfl, rfl, rfl, rfl⟩

theorem of_get : Pays [] (get : Run State) := by
  refine of_aside fun s y t run => ?_
  cases run
  exact ⟨rfl, rfl, rfl, rfl⟩

theorem of_modify {f : State → State} (h : ∀ s, Aside s (f s)) : Pays [] (modify f : Run Unit) := by
  refine of_aside fun s y t run => ?_
  cases run
  exact h s

theorem bind {a : Run α} {f : α → Run β} (ha : Pays owed a) (hf : ∀ x, Pays owed' (f x)) :
    Pays (owed ++ owed') (a >>= f) := by
  intro s y t kind run
  obtain ⟨x, u, first, rest⟩ := bind_some run
  obtain ⟨forward, pays⟩ := ha s x u kind first
  obtain ⟨forward', pays'⟩ := hf x u y t forward.isLoopback rest
  refine ⟨forward.trans forward', fun others covered => ?_⟩
  rw [List.append_assoc] at covered
  exact pays' others (pays (owed' ++ others) covered)

theorem bind_first {a : Run α} {f : α → Run β} (ha : Pays owed a) (hf : ∀ x, Pays [] (f x)) :
    Pays owed (a >>= f) := by
  have whole := ha.bind hf
  rwa [List.append_nil] at whole

theorem bind_rest {a : Run α} {f : α → Run β} (ha : Pays [] a) (hf : ∀ x, Pays owed (f x)) :
    Pays owed (a >>= f) :=
  ha.bind hf

theorem free {a : Run α} (h : Pays owed a) : Pays [] a := by
  intro s x t kind run
  obtain ⟨forward, pays⟩ := h s x t kind run
  refine ⟨forward, fun others covered => ?_⟩
  exact pays others (covered.more (List.subset_append_right owed others))

/-- What is done first may take on debts. -/
theorem after {a : Run α} (h : Pays owed' a) {s u t : State} {x : α} (forward : Forward s u)
    (takes : ∀ others, s.Covered (owed ++ others) → u.Covered (owed' ++ others))
    (run : a u = some (x, t)) :
    Forward s t ∧ ∀ others, s.Covered (owed ++ others) → t.Covered others := by
  obtain ⟨forward', pays⟩ := h u x t forward.isLoopback run
  exact ⟨forward.trans forward', fun others covered => pays others (takes others covered)⟩

end Pays

theorem note_pays (o : Occurrence) : Pays [] (note o) := .of_modify fun _ => ⟨rfl, rfl, rfl, rfl⟩

theorem noteAll_pays (os : List Occurrence) : Pays [] (noteAll os) :=
  .of_modify fun _ => ⟨rfl, rfl, rfl, rfl⟩

theorem count_pays (f : Stats → Stats) : Pays [] (count f) :=
  .of_modify fun _ => ⟨rfl, rfl, rfl, rfl⟩

theorem timeOfDay_pays : Pays [] timeOfDay := by
  refine .of_aside fun s x t run => ?_
  cases run
  exact ⟨rfl, rfl, rfl, rfl⟩

theorem steadyTime_pays : Pays [] steadyTime := by
  refine .of_aside fun s x t run => ?_
  cases run
  exact ⟨rfl, rfl, rfl, rfl⟩

theorem hasCome_pays (deadline : Option Nat) : Pays [] (hasCome deadline) := by
  cases deadline with
  | none => exact .of_pure _
  | some d => exact .bind_rest steadyTime_pays fun _ => .of_pure _

theorem newOperation_pays (c : Completion) : Pays [] (newOperation c) := by
  refine .bind_rest .of_get fun s => ?_
  refine .bind_rest (.of_modify fun _ => ⟨rfl, rfl, rfl, rfl⟩) fun _ => ?_
  exact .bind_rest (note_pays _) fun _ => .of_pure _

/-! ### Cells -/

/-- Whoever makes a cell owes it an outcome. -/
theorem newCell_pays {α : Type} {f : Nat → Run α} (h : ∀ cell, Pays [cell] (f cell)) :
    Pays [] (newCell >>= f) := by
  intro s x t kind run
  obtain ⟨cell, u, made, run⟩ := bind_some run
  cases made
  let u : State := { s with cells := s.cells.push .waiting }
  have older {other : Nat} (waits : u.Waits other) (isOther : other ≠ s.cells.size) :
      s.Waits other := by
    have found : (s.cells.push .waiting)[other]? = some .waiting := waits
    rwa [Array.getElem?_push, if_neg isOther] at found
  refine (h s.cells.size).after (u := u) ⟨kind, ?_, ?_⟩ ?_ run
  · simp [u]
  · exact fun other known waits => older waits (Nat.ne_of_lt known)
  · intro others covered other waits
    by_cases own : other = s.cells.size
    · exact .inl (own ▸ List.mem_cons_self)
    · rcases covered other (older waits own) with known | kept
      · exact .inl (List.mem_cons_of_mem _ known)
      · exact .inr kept

theorem setCell_pays (cell : Nat) {c : Cell} (filled : c ≠ .waiting) :
    Pays [cell] (setCell cell c) := by
  intro s x t kind run
  cases run
  have waited {other : Nat}
      (waits : (s.cells.setIfInBounds cell c)[other]? = some .waiting) :
      cell ≠ other ∧ s.Waits other := by
    by_cases own : cell = other
    · subst own
      rw [Array.getElem?_setIfInBounds_self] at waits
      split at waits
      · exact absurd (Option.some.inj waits) filled
      · cases waits
    · rw [Array.getElem?_setIfInBounds_ne own] at waits
      exact ⟨own, waits⟩
  refine ⟨⟨kind, ?_, fun other _ waits => (waited waits).2⟩, ?_⟩
  · exact Nat.le_of_eq (Array.size_setIfInBounds ..).symm
  · intro others covered other waits
    obtain ⟨isOther, before⟩ := waited waits
    rcases covered other before with known | kept
    · rcases List.mem_cons.mp known with same | further
      · exact absurd same.symm isOther
      · exact .inl further
    · exact .inr kept

theorem getCell_run (cell : Nat) (s : State) :
    getCell cell s = some ((s.cells[cell]?).getD .spent, s) := rfl

theorem getCell_pays (cell : Nat) : Pays [] (getCell cell) :=
  .bind_rest .of_get fun _ => .of_pure _

theorem takeOutcome_pays (cell : Nat) : Pays [] (takeOutcome cell) := by
  refine .bind_rest (getCell_pays cell) fun c => ?_
  cases c with
  | waiting | spent => exact .of_pure _
  | ready outcome =>
    exact .bind_rest (setCell_pays cell (by simp)).free fun _ => .of_pure _

theorem drop_pays (c : Completion) : Pays c.cell?.toList (drop c) := by
  cases c with
  | nobody | handler h => exact .of_pure _
  | future cell =>
    intro s x t kind run
    obtain ⟨c, u, got, run⟩ := bind_some run
    rw [getCell_run] at got
    obtain ⟨rfl, rfl⟩ := Prod.mk.inj (Option.some.inj got)
    -- A cell that does not wait is owed nothing any more.
    have settled (notWaiting : (s.cells[cell]?).getD .spent ≠ .waiting) (others : List Nat)
        (covered : s.Covered (cell :: others)) : s.Covered others := by
      intro other waits
      rcases covered other waits with own | kept
      · rcases List.mem_cons.mp own with rfl | further
        · unfold State.Waits at waits
          rw [waits] at notWaiting
          exact absurd rfl notWaiting
        · exact .inl further
      · exact .inr kept
    cases content : (s.cells[cell]?).getD .spent with
    | waiting =>
      rw [content] at run
      exact setCell_pays cell (by simp) s x t kind run
    | ready outcome =>
      rw [content] at run
      obtain ⟨-, rfl⟩ := pure_some run
      exact ⟨.of_cells kind rfl, settled (by simp [content])⟩
    | spent =>
      rw [content] at run
      obtain ⟨-, rfl⟩ := pure_some run
      exact ⟨.of_cells kind rfl, settled (by simp [content])⟩

theorem dropAny_pays (c : Option Completion) :
    Pays (c.bind Completion.cell?).toList (dropAny c) := by
  cases c with
  | none => exact .of_pure _
  | some c => exact drop_pays c

/-! ### Catchers -/

theorem caught_pays (desk : Desk) : Pays [] (caught desk) := by
  refine .of_aside fun s x t run => ?_
  rw [caught_run] at run
  cases run
  exact ⟨rfl, rfl, rfl, rfl⟩

theorem setCaught_pays (desk : Desk) (e : Option Failure) : Pays [] (setCaught desk e) := by
  refine .of_modify fun s => ?_
  cases desk <;> exact ⟨rfl, rfl, rfl, rfl⟩

theorem store_pays (desk : Desk) (e : Failure) : Pays [] (store desk e) := by
  refine .bind_rest (caught_pays desk) fun held => ?_
  cases held with
  | some pending => exact note_pays _
  | none => exact .bind_rest (note_pays _) fun _ => setCaught_pays desk _

theorem rethrow_pays (desk : Desk) : Pays [] (rethrow desk) := by
  refine .bind_rest (caught_pays desk) fun held => ?_
  cases held with
  | none => exact .of_pure _
  | some e =>
    refine .bind_rest (setCaught_pays desk _) fun _ => ?_
    exact .bind_rest (note_pays _) fun _ => .of_pure _

/-! ### Completions -/

/-- Application code forgets no future. -/
def Paying (act : Act) : Prop := ∀ step, Pays [] (act step)

section
variable {act : Act}

theorem takeSteps_pays (paying : Paying act) (steps : List Step) :
    Pays [] (takeSteps act steps) := by
  induction steps with
  | nil => exact .of_pure _
  | cons step rest ih =>
    exact .bind_rest (.bind_rest (note_pays _) fun _ => paying step) fun _ => ih

theorem runSteps_pays (paying : Paying act) (name : String) (steps : List Step) :
    Pays [] (runSteps act name steps) := by
  induction steps with
  | nil => exact .of_pure _
  | cons step rest ih =>
    refine .bind_rest (.bind_rest (note_pays _) fun _ => paying step) fun answer => ?_
    exact .bind_rest (note_pays _) fun _ => ih

theorem invoke_pays (paying : Paying act) (c : Completion) (on : Occasion)
    (status : StatusCode) (payload : Payload) :
    Pays c.cell?.toList (c.invoke act on status payload) := by
  have noted : Pays [] (on.noteConcluded c status payload) := by
    unfold Occasion.noteConcluded
    cases on.operation with
    | none => exact .of_pure _
    | some n => exact note_pays _
  refine .bind_rest noted fun _ => ?_
  cases c with
  | future cell => exact .bind_first (setCell_pays cell (by simp)) fun _ => .of_pure _
  | nobody => exact .of_pure _
  | handler h =>
    refine .bind_rest (note_pays _) fun _ => ?_
    refine .bind_rest (runSteps_pays paying _ _) fun _ => ?_
    exact .bind_rest (note_pays _) fun _ => .of_pure _

variable {ρ : Type} (a : Adapter ρ)

theorem conclude_pays (paying : Paying act) (status : StatusCode) (payload : Payload) :
    Pays a.completion.cell?.toList (a.conclude act status payload) := by
  refine .bind_first (.bind_first (invoke_pays paying _ _ _ _) fun outcome => ?_) fun _ =>
    .of_pure _
  cases outcome with
  | ok _ => exact .of_pure _
  | error e => exact .bind_rest (store_pays _ _) fun _ => .of_pure _

theorem adapter_receive_pays (paying : Paying act) (id : UInt32) (response : Option ρ) :
    Pays a.completion.cell?.toList (a.receive act id response) := by
  cases response with
  | none =>
    refine .bind_rest (note_pays _) fun _ => .bind_rest (note_pays _) fun _ => ?_
    exact .bind_first (conclude_pays a paying _ _) fun _ => .of_pure _
  | some r =>
    refine .bind_rest (takeSteps_pays paying _) fun _ => ?_
    split
    next =>
      refine .bind_rest (note_pays _) fun _ => ?_
      exact .bind_first (conclude_pays a paying _ _) fun _ => .of_pure _
    next =>
      refine .bind_rest (note_pays _) fun _ => .bind_rest (note_pays _) fun _ => ?_
      exact .bind_first (conclude_pays a paying _ _) fun _ => .of_pure _

theorem misdirect_pays : Pays a.completion.cell?.toList a.misdirect :=
  .bind_rest (note_pays _) fun _ => drop_pays _

theorem callBack_pays (paying : Paying act) (q : Queued) (response : Option AnyResponse) :
    Pays q.receiver.cell?.toList (q.callBack act response) := by
  refine .bind_rest (note_pays _) fun _ => ?_
  cases q.receiver with
  | adapter s a => exact .bind_first (adapter_receive_pays a paying _ _) fun _ => .of_pure _
  | probe => exact note_pays _

theorem receiver_drop_pays (r : Receiver) : Pays r.cell?.toList r.drop := by
  cases r with
  | adapter s a => exact drop_pays _
  | probe => exact .of_pure _

end

/-! ### The transport -/

section
variable {s t : State}

/-- The transport may change in everything but its queue. -/
theorem put_pays {l : Loopback} {x : Unit} (run : l.put s = some (x, t))
    (same : l.queue = s.loopback.queue) :
    Forward s t ∧ ∀ owed, s.Covered owed → t.Covered owed := by
  cases run
  refine ⟨.of_cells rfl rfl, fun owed covered => ?_⟩
  refine covered.carry (fun _ waits => waits) (fun _ own _ => .inl own) ?_
    fun _ parked => .inr parked
  rintro cell ⟨q, queued, tells⟩
  exact .inr ⟨q, same ▸ queued, tells⟩

/-- An accepted request tells its cell later; a rejected one has told nobody yet. -/
theorem handOver_pays {service : Service} {body : Option AnyRequest} {r : Receiver}
    {result : Except (StatusCode × Bool) UInt32} (kind : s.transport.isLoopback = true)
    (run : handOver service body r s = some (result, t)) :
    Forward s t ∧ ∀ owed, s.Covered (r.cell?.toList ++ owed) →
      t.Covered (match result with | .ok _ => owed | .error _ => r.cell?.toList ++ owed) := by
  obtain ⟨_, u, got, run⟩ := bind_some run
  cases got
  rw [loopback_eq kind] at run
  unfold submitTo at run
  rcases submitted : s.loopback.submit service body r with ⟨verdict, l⟩
  simp only [submitted] at run
  cases verdict with
  | error status =>
    obtain ⟨_, v, put, run⟩ := bind_some run
    obtain ⟨_, w, noted, run⟩ := bind_some run
    obtain ⟨rfl, rfl⟩ := pure_some run
    have same : l.queue = s.loopback.queue := by rw [Loopback.submit_error submitted]
    have placed : l.put s = some ((), v) := by
      cases put
      rfl
    obtain ⟨forward, keeps⟩ := put_pays placed same
    obtain ⟨forward', noting⟩ := note_pays _ v _ w forward.isLoopback noted
    exact ⟨forward.trans forward', fun owed covered => noting _ (keeps _ covered)⟩
  | ok id =>
    obtain ⟨_, v, put, run⟩ := bind_some run
    obtain ⟨_, w, noted, run⟩ := bind_some run
    obtain ⟨rfl, rfl⟩ := pure_some run
    cases put
    cases noted
    have queue : l.queue = s.loopback.queue ++ [⟨id, service, body, r⟩] := by
      obtain ⟨rfl, rfl⟩ := Loopback.submit_ok submitted
      rfl
    have queues {cell : Nat} {q : Queued} (member : q ∈ l.queue)
        (tells : q.receiver.cell? = some cell) : State.Queues
          { s with transport := .loopback l, journal := s.journal.push (.accepted id service body) }
          cell := ⟨q, member, tells⟩
    refine ⟨.of_cells rfl rfl, fun owed covered => ?_⟩
    refine covered.carry (fun _ waits => waits) ?_ ?_ fun _ parked => .inr parked
    · intro cell own _
      rcases List.mem_append.mp own with told | known
      · refine .inr (.inl (queues (q := ⟨id, service, body, r⟩) ?_ (by simpa using told)))
        rw [queue]
        exact List.mem_append_right _ (List.mem_singleton.mpr rfl)
      · exact .inl known
    · rintro cell ⟨q, queued, tells⟩
      refine .inr (queues (q := q) ?_ tells)
      rw [queue]
      exact List.mem_append_left _ queued

end

section
variable {act : Act}

theorem submit_pays (paying : Paying act) (k : Call) (c : Completion) :
    Pays c.cell?.toList (submit act k c) := by
  refine .bind_rest (newOperation_pays c) fun n => .bind_rest timeOfDay_pays fun now => ?_
  intro s x t kind run
  obtain ⟨result, u, handed, run⟩ := bind_some run
  obtain ⟨forward, takes⟩ := handOver_pays kind handed
  cases result with
  | ok id =>
    have counts : Pays [] (do
        count fun s => { s with submitted := Stats.bump s.submitted 1 }
        note (.submitted n id k.service)) := .bind_rest (count_pays _) fun _ => note_pays _
    exact counts.after forward takes run
  | error e =>
    obtain ⟨status, isForeign⟩ := e
    have tells : Pays c.cell?.toList (do
        count fun s => { s with rejected := Stats.bump s.rejected 1 }
        note (.rejected n k.service status)
        if isForeign then (k.adapter n c).misdirect else (k.adapter n c).reject act status) := by
      refine .bind_rest (count_pays _) fun _ => .bind_rest (note_pays _) fun _ => ?_
      split
      · exact misdirect_pays (k.adapter n c)
      · exact conclude_pays (k.adapter n c) paying _ _
    exact tells.after forward takes run

theorem serve_pays (paying : Paying act) (q : Queued) :
    Pays q.receiver.cell?.toList (Loopback.serve act q) := by
  refine .bind_rest timeOfDay_pays fun now => ?_
  intro s x t kind run
  obtain ⟨_, u, got, run⟩ := bind_some run
  cases got
  rcases answered : s.loopback.answer now q with ⟨response, os, l⟩
  simp only [answered] at run
  obtain ⟨_, v, put, run⟩ := bind_some run
  obtain ⟨forward, keeps⟩ := put_pays put (Loopback.answer_keeps answered).1
  have rest : Pays q.receiver.cell?.toList (do
      noteAll os
      note (.served q.id q.service q.body response)
      q.callBack act response) :=
    .bind_rest (noteAll_pays _) fun _ => .bind_rest (note_pays _) fun _ => callBack_pays paying _ _
  exact rest.after forward (fun others => keeps _) run

def cellsOf (batch : List Queued) : List Nat := batch.flatMap fun q => q.receiver.cell?.toList

theorem serveAll_pays (paying : Paying act) (batch : List Queued) :
    Pays (cellsOf batch) (Loopback.serveAll act batch) := by
  induction batch with
  | nil => exact .of_pure _
  | cons q rest ih => exact .bind (serve_pays paying q) fun _ => ih

theorem abandonAll_pays (paying : Paying act) (batch : List Queued) :
    Pays (cellsOf batch) (Loopback.abandonAll act batch) := by
  induction batch with
  | nil => exact .of_pure _
  | cons q rest ih => exact .bind (callBack_pays paying q none) fun _ => ih

/-- A pass owes what its requests are to tell. -/
theorem emptied_covered {s : State} {l : Loopback} {owed : List Nat}
    (loopback : s.transport = .loopback l) (covered : s.Covered owed) :
    (s.emptied l).Covered (cellsOf l.queue ++ owed) := by
  have found : s.loopback = l := loopback_of loopback
  refine covered.carry (fun _ waits => waits) ?_ ?_ fun _ parked => .inr parked
  · exact fun _ own _ => .inl (List.mem_append_right _ own)
  · rintro cell ⟨q, queued, tells⟩
    refine .inl (List.mem_append_left _ ?_)
    rw [found] at queued
    exact List.mem_flatMap.mpr ⟨q, queued, by simp [tells]⟩

theorem callBackAll_pays (paying : Paying act) (isConnected : Bool) (batch : List Queued) :
    Pays (cellsOf batch) (callBackAll act isConnected batch) := by
  cases isConnected with
  | true => exact serveAll_pays paying batch
  | false => exact abandonAll_pays paying batch

theorem endPass_pays (isConnected : Bool) (n : Nat) : Pays [] (endPass isConnected n) := by
  unfold endPass
  split
  · exact .bind_rest (note_pays _) fun _ => .of_pure _
  · exact .bind_rest (note_pays _) fun _ => .of_pure _

theorem pump_pays (paying : Paying act) : Pays [] (pump act) := by
  intro s x t kind run
  rw [pump_eq (loopback_eq kind)] at run
  have began : Forward s (s.emptied s.loopback) := .of_cells rfl rfl
  have takes : ∀ others, s.Covered ([] ++ others) →
      (s.emptied s.loopback).Covered (cellsOf s.loopback.queue ++ others) :=
    fun others => emptied_covered (loopback_eq kind)
  have calls := (callBackAll_pays paying s.loopback.isConnected s.loopback.queue).bind_first
    fun _ => endPass_pays s.loopback.isConnected s.loopback.queue.length
  exact calls.after began takes run

theorem finishPass_pays (r : Except Failure Nat) : Pays [] (finishPass r) := by
  cases r with
  | error e => exact .of_pure _
  | ok n =>
    refine .bind_rest (count_pays _) fun _ => .bind_rest (note_pays _) fun _ => ?_
    refine .bind_rest (rethrow_pays .client) fun found => ?_
    cases found with
    | none => exact .of_pure _
    | some e =>
      exact .bind_rest (count_pays _) fun _ => .bind_rest (note_pays _) fun _ => .of_pure _

theorem runIterate_pays (paying : Paying act) : Pays [] (runIterate act) := by
  rw [runIterate_eq]
  exact .bind_rest (pump_pays paying) finishPass_pays

end

end OpcUa.Client
