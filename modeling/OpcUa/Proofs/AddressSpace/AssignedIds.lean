import OpcUa.Proofs.AddressSpace.Refusals
import OpcUa.Proofs.AddressSpace.Runs

/-!
Identifiers that the server assigns. The search for a free number ends exactly if there is one. Along
a run the searches go on where the one before has ended, whatever is added or deleted in between, so
no identifier is assigned again before all numbers have been tried.
-/

namespace OpcUa.AddressSpace

variable {now : Timestamp} {s s' : AddressSpace} {service : Service} {item : service.Item}
  {result : service.Result} {n m : UInt32} {count : Nat}

/-! ### One search -/

/-- The search from a number on, one number after another: how many are tried, and the first that is
free. -/
inductive Searches (s : AddressSpace) : UInt32 → Nat → UInt32 → Prop
  | found {n : UInt32} (free : s.contains (candidate n) = false) : Searches s n 1 n
  | onward {n m : UInt32} {count : Nat} (taken : s.contains (candidate n))
      (further : Searches s (n + 1) count m) : Searches s n (count + 1) m

theorem Searches.free (search : s.Searches n count m) : s.contains (candidate m) = false := by
  induction search with
  | found free => exact free
  | onward _ _ ih => exact ih

theorem Searches.unique {count' : Nat} {m' : UInt32} (search : s.Searches n count m)
    (search' : s.Searches n count' m') : count' = count ∧ m' = m := by
  induction search generalizing count' with
  | found free =>
    cases search' with
    | found => exact ⟨rfl, rfl⟩
    | onward taken =>
      rw [free] at taken
      contradiction
  | onward taken _ ih =>
    cases search' with
    | found free =>
      rw [free] at taken
      contradiction
    | onward _ further' =>
      obtain ⟨rfl, rfl⟩ := ih further'
      exact ⟨rfl, rfl⟩

theorem searches_of_first {k : Nat} (taken : ∀ j < k, s.contains (candidate (n + .ofNat j)))
    (free : s.contains (candidate (n + .ofNat k)) = false) :
    s.Searches n (k + 1) (n + .ofNat k) := by
  induction k generalizing n with
  | zero =>
    have same : n + .ofNat 0 = n := UInt32.add_zero n
    rw [same] at free ⊢
    exact .found free
  | succ k ih =>
    have first : s.contains (candidate n) := by
      simpa using taken 0 (Nat.succ_pos k)
    have later (j : Nat) : n + .ofNat (j + 1) = n + 1 + .ofNat j := by
      rw [UInt32.ofNat_add, UInt32.add_comm (.ofNat j), ← UInt32.add_assoc]
      rfl
    rw [later] at free ⊢
    refine .onward first (ih (fun j before => ?_) free)
    rw [← later]
    exact taken (j + 1) (Nat.succ_lt_succ before)

/-- How many numbers the search from the counter on tries; all of them, if none is free. -/
def tries (s : AddressSpace) : Nat := (s.freeOffset?.map (· + 1)).getD UInt32.size

theorem freeOffset?_searches {k : Nat} (found : s.freeOffset? = some k) :
    s.Searches s.nextId (k + 1) (s.nextId + .ofNat k) ∧ k < UInt32.size ∧ k ≤ s.nodeCount := by
  obtain ⟨free, within, taken⟩ := List.find?_range_eq_some.mp found
  rw [List.mem_range] at within
  refine ⟨searches_of_first (fun j before => ?_) (by simpa using free), by omega, by omega⟩
  simpa using taken j before

theorem searches_iff :
    (∃ count m, s.Searches s.nextId count m) ↔ ∃ n, s.contains (candidate n) = false := by
  constructor
  · rintro ⟨count, m, search⟩
    exact ⟨m, search.free⟩
  · intro free
    obtain ⟨k, found⟩ := Option.isSome_iff_exists.mp (freeOffset?_isSome free)
    exact ⟨k + 1, _, (freeOffset?_searches found).1⟩

/-- What a search finds is what is assigned, and the counter goes on behind it. -/
theorem Searches.assigns (search : s.Searches s.nextId count m) :
    s.assignId .null = .ok (candidate m, m + 1) ∧ s.tries = count ∧ count ≤ UInt32.size ∧
      count ≤ s.nodeCount + 1 := by
  obtain ⟨k, found⟩ :=
    Option.isSome_iff_exists.mp (freeOffset?_isSome ⟨m, search.free⟩)
  obtain ⟨first, few, bound⟩ := freeOffset?_searches found
  obtain ⟨rfl, rfl⟩ := first.unique search
  rw [assignId_null, AddressSpace.tries, found]
  exact ⟨rfl, rfl, few, Nat.succ_le_succ bound⟩

/-! ### Runs -/

/-- How many numbers are tried for an item: none, but for a new node that meets the checks and asks
for an identifier. -/
def triedBy (s : AddressSpace) : Job → Nat
  | ⟨_, .addNodes, item⟩ =>
    if item.requestedId = .null ∧ s.checkNewNode item = .ok () then s.tries else 0
  | _ => 0

theorem triedBy_addNodes {item : AddNodeItem} :
    s.triedBy ⟨now, .addNodes, item⟩ =
      if item.requestedId = .null ∧ s.checkNewNode item = .ok () then s.tries else 0 := rfl

/-- How many numbers are tried in a run. -/
def tried (s : AddressSpace) : List Job → Nat
  | [] => 0
  | job :: rest => s.triedBy job + (perform job.now job.service job.item s).2.tried rest

/-- The identifier that is assigned to a new node, if the item is for one and has asked for it. -/
def assignedBy : Event → Option NodeId
  | (⟨_, .addNodes, item⟩, ⟨.addNodes, ⟨status, id⟩⟩) =>
    if item.requestedId = .null ∧ status = .good then some id else none
  | _ => none

/-- The identifiers that are assigned in a run, one after another. -/
def assigned (events : List Event) : List NodeId := events.filterMap assignedBy

theorem Outcome.nextId_eq (h : Outcome now s service item result s')
    (other : service ≠ .addNodes) : s'.nextId = s.nextId := by
  cases h with
  | added => exact absurd rfl other
  | _ => rfl

/-- For a new node that meets the checks and asks for an identifier the counter goes on by as many
numbers as are tried, and the identifier is that of the last one. -/
theorem addNode_counts (now : Timestamp) {item : AddNodeItem} (null : item.requestedId = .null)
    (admitted : s.Admits item) :
    (s.addNode now item).2.nextId = s.nextId + .ofNat s.tries ∧
      ((s.addNode now item).1.status = .good →
        (s.addNode now item).1.addedId ∈ candidates s.nextId s.tries) := by
  cases found : s.freeOffset? with
  | some k =>
    have count : s.tries = k + 1 := by rw [tries, found]; rfl
    have assigned : s.assignId item.requestedId = _ := null ▸ assignId_null
    simp only [found] at assigned
    rw [addNode_of_assigned admitted assigned, count, nextId_attach]
    refine ⟨?_, fun _ => List.mem_map.mpr ⟨k, List.mem_range.mpr (Nat.lt_succ_self k), rfl⟩⟩
    show s.nextId + .ofNat k + 1 = s.nextId + .ofNat (k + 1)
    rw [UInt32.ofNat_add, ← UInt32.add_assoc]
    rfl
  | none =>
    -- All numbers have been tried, and the counter is back where it was.
    have count : s.tries = UInt32.size := by rw [tries, found]; rfl
    have failed : s.assignId item.requestedId = _ := null ▸ assignId_null
    simp only [found] at failed
    have refused : s.addNode now item = (⟨.badTooManyOperations, .null⟩, s) := by
      simp only [addNode, checkNewNode_ok.mpr admitted, failed]
    rw [refused, count]
    have bad : StatusCode.badTooManyOperations ≠ .good := by decide
    exact ⟨(UInt32.add_zero _).symm, fun good => absurd good bad⟩

/-- For any other item for a new node the counter stays, and no identifier is assigned. -/
theorem addNode_still (now : Timestamp) {item : AddNodeItem}
    (other : ¬ (item.requestedId = .null ∧ s.Admits item)) :
    (s.addNode now item).2.nextId = s.nextId ∧
      (item.requestedId = .null → (s.addNode now item).1.status ≠ .good) := by
  refine ⟨?_, fun null good => other ⟨null, admits_of_good good⟩⟩
  have outcome := addNode_outcome now s item
  generalize s.addNode now item = answer at outcome ⊢
  obtain ⟨result, after⟩ := answer
  cases outcome with
  | refused => rfl
  | added admitted assigned =>
    rcases assignId_ok assigned with ⟨-, -, same⟩ | ⟨null, -⟩
    · exact nextId_attach.trans same
    · exact absurd ⟨null, admitted⟩ other

theorem perform_counts (job : Job) :
    (perform job.now job.service job.item s).2.nextId = s.nextId + .ofNat (s.triedBy job) ∧
      ∀ id, assignedBy (s.answered job) = some id → id ∈ candidates s.nextId (s.triedBy job) := by
  obtain ⟨now, service, item⟩ := job
  have still : ∀ {t : AddressSpace}, t.nextId = s.nextId → t.nextId = s.nextId + .ofNat 0 :=
    fun same => same.trans (UInt32.add_zero _).symm
  cases service with
  | addNodes =>
    have named : ∀ id, assignedBy (s.answered ⟨now, .addNodes, item⟩) = some id →
        item.requestedId = .null ∧ (s.addNode now item).1.status = .good ∧
          (s.addNode now item).1.addedId = id := by
      intro id assigned
      obtain ⟨⟨null, good⟩, same⟩ := Option.ite_none_right_eq_some.mp assigned
      exact ⟨null, good, Option.some.inj same⟩
    rw [triedBy_addNodes]
    split
    next asking =>
      have admitted := checkNewNode_ok.mp asking.2
      obtain ⟨counter, last⟩ := addNode_counts now asking.1 admitted
      refine ⟨counter, fun id assigned => ?_⟩
      obtain ⟨-, good, rfl⟩ := named id assigned
      exact last good
    next other =>
      have other' : ¬ (item.requestedId = .null ∧ s.Admits item) :=
        fun asking => other ⟨asking.1, checkNewNode_ok.mpr asking.2⟩
      obtain ⟨counter, unassigned⟩ := addNode_still now other'
      refine ⟨still counter, fun id assigned => ?_⟩
      obtain ⟨null, good, -⟩ := named id assigned
      exact absurd good (unassigned null)
  | read | write | addReferences | deleteNodes | deleteReferences =>
    exact ⟨still ((perform_outcome now _ item s).nextId_eq nofun), nofun⟩

/-- The identifiers that are assigned in a run are among those that are tried, in that order, and the
counter is behind the last of these. -/
theorem run_counts (jobs : List Job) (s : AddressSpace) :
    (s.after jobs).nextId = s.nextId + .ofNat (s.tried jobs) ∧
      (assigned (s.transcript jobs)).Sublist (candidates s.nextId (s.tried jobs)) := by
  induction jobs generalizing s with
  | nil => exact ⟨(UInt32.add_zero _).symm, List.nil_sublist _⟩
  | cons job rest ih =>
    obtain ⟨counter, tried⟩ := perform_counts (s := s) job
    obtain ⟨later, ids⟩ := ih (perform job.now job.service job.item s).2
    rw [counter] at later ids
    rw [after_cons, AddressSpace.tried, candidates_add, transcript_cons, assigned]
    constructor
    · rw [later, UInt32.ofNat_add, UInt32.add_assoc]
    · cases here : assignedBy (s.answered job) with
      | none =>
        rw [List.filterMap_cons_none here]
        exact ids.trans (List.sublist_append_right ..)
      | some id =>
        rw [List.filterMap_cons_some here]
        exact (List.singleton_sublist.mpr (tried id here)).append ids

/-- The search for an identifier ends exactly if a number is free, and what it assigns along a run
is all different as long as it has not tried every number. -/
theorem assigned_identifiers_never_come_back (s : AddressSpace) :
    ((∃ count n, s.Searches s.nextId count n) ↔ ∃ n, s.contains (.numeric 1 n) = false) ∧
      (∀ count n, s.Searches s.nextId count n →
        count = s.tries ∧ count ≤ UInt32.size ∧ count ≤ s.nodeCount + 1 ∧
          ∀ now item, item.requestedId = .null → s.Admits item →
            (s.addNode now item).1 = ⟨.good, .numeric 1 n⟩ ∧ NodeId.numeric 1 n ≠ .null ∧
              s.contains (.numeric 1 n) = false ∧
              (s.addNode now item).2.contains (.numeric 1 n)) ∧
      (∀ now item, (s.addNode now item).1.status ≠ .good → (s.addNode now item).2 = s) ∧
      ∀ jobs, (s.after jobs).nextId = s.nextId + .ofNat (s.tried jobs) ∧
        (assigned (s.transcript jobs)).Sublist (candidates s.nextId (s.tried jobs)) ∧
        (s.tried jobs ≤ UInt32.size → (assigned (s.transcript jobs)).Nodup) := by
  refine ⟨searches_iff, fun count n search => ?_, fun now item refused => ?_, fun jobs => ?_⟩
  · obtain ⟨assigned, same, few, bound⟩ := search.assigns
    refine ⟨same.symm, few, bound, fun now item null admitted => ?_⟩
    rw [← null] at assigned
    rw [addNode_of_assigned admitted assigned]
    exact ⟨rfl, candidate_ne_null n, search.free, contains_attach.mpr (.inl rfl)⟩
  · have outcome := addNode_outcome now s item
    rcases outcome.added_or_refused with ⟨bad, -⟩ | ⟨-, good, -⟩
    · exact outcome.unchanged_of_bad bad
    · exact absurd good refused
  · obtain ⟨counter, ids⟩ := run_counts jobs s
    exact ⟨counter, ids, fun few => ids.nodup (candidates_nodup s.nextId few)⟩

/-- The counter stands at the last number. A folder gets it and is deleted; another one takes the
number after it, by name; the next two folders get the two numbers behind that one. -/
theorem numbers_assigned_across_the_end :
    let s := { standard with nextId := 4294967295 }
    let item : AddNodeItem := .ofKind .folder .objectsFolder .null "A"
    let addition (item : AddNodeItem) : Job := ⟨.epoch, .addNodes, item⟩
    let jobs := [addition item, ⟨.epoch, .deleteNodes, ⟨.numeric 1 4294967295, true⟩⟩,
      addition (.ofKind .folder .objectsFolder (.numeric 1 0) "A"),
      addition (.ofKind .folder .objectsFolder .null ""), addition item, addition item]
    (s.addNode .epoch item).1 = ⟨.good, .numeric 1 4294967295⟩ ∧ s.tried jobs = 4 ∧
      assigned (s.transcript jobs) = [.numeric 1 4294967295, .numeric 1 1, .numeric 1 2] ∧
      (assigned (s.transcript jobs)).Nodup ∧ (s.after jobs).nextId = 3 ∧
      (s.addNode .epoch (.ofKind .folder .objectsFolder .null "")).2 = s := by
  intro s item addition jobs
  obtain ⟨-, searches, refused, runs⟩ := assigned_identifiers_never_come_back s
  obtain ⟨counter, -, distinct⟩ := runs jobs
  have first := (searches 1 4294967295 (.found (by decide))).2.2.2 .epoch item rfl
    (checkNewNode_ok.mp (by decide))
  have few : s.tried jobs = 4 := by decide
  refine ⟨first.1, few, by decide, distinct (few ▸ by decide), ?_, refused _ _ (by decide)⟩
  rw [counter, few]
  decide

end OpcUa.AddressSpace
