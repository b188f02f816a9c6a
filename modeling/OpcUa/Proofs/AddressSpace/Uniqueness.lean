import Mathlib.Data.List.Nodup
import OpcUa.Proofs.AddressSpace.Integrity

/-!
How often a reference is stored. References are not added twice, but the one that comes with a new
node from its parent is stored unseen. It is there already if the node was deleted without the
references to it and is added back to its place; then it is stored twice, until it is deleted.
-/

namespace OpcUa.AddressSpace

variable {now : Timestamp} {s s' : AddressSpace} {service : Service} {item : service.Item}
  {result : service.Result} {jobs : List Job} {job : Job} {r : Reference}

/-! ### One item -/

/-- A node was added below its parent by a reference that was there before. -/
def Doubles (s : AddressSpace) (r : Reference) : Event → Prop
  | (⟨_, .addNodes, item⟩, ⟨.addNodes, ⟨status, id⟩⟩) =>
    status = .good ∧ r = ⟨item.parent, item.referenceType, id⟩ ∧ r ∈ s.references
  | _ => False

theorem not_doubles_refused {status : StatusCode} (bad : status.isBad) :
    ¬ s.Doubles r (⟨now, service, item⟩, ⟨service, refusal service status⟩) := by
  cases service with
  | addNodes =>
    rintro ⟨rfl, -⟩
    exact absurd bad (by decide)
  | _ => exact id

theorem stored_of_twice (twice : 1 < s.references.count r) : r ∈ s.references :=
  List.count_pos_iff.mp (Nat.zero_lt_of_lt twice)

theorem twice_filter {keep : Reference → Bool} {l : List Reference} :
    1 < (l.filter keep).count r ↔ 1 < l.count r ∧ r ∈ l.filter keep := by
  by_cases kept : keep r
  · rw [List.count_filter kept, List.mem_filter]
    constructor
    · intro twice
      exact ⟨twice, List.count_pos_iff.mp (Nat.zero_lt_of_lt twice), kept⟩
    · exact And.left
  · have gone : r ∉ l.filter keep := fun member => kept (List.mem_filter.mp member).2
    simp [gone, List.count_eq_zero_of_not_mem gone]

theorem twice_append {l new : List Reference} (distinct : new.Nodup) :
    1 < (l ++ new).count r ↔ (r ∈ l ∧ r ∈ new) ∨ 1 < l.count r := by
  have stored : 0 < l.count r ↔ r ∈ l := List.count_pos_iff
  rw [List.count_append]
  by_cases fresh : r ∈ new
  · rw [List.count_eq_one_of_mem distinct fresh, ← stored]
    simp only [fresh, and_true]
    omega
  · simp [fresh, List.count_eq_zero_of_not_mem fresh]

/-- Of the references that come with a new node, only the one from its parent can be there before.
-/
theorem twice_attach {item : AddNodeItem} {id : NodeId} (rooted : s.Rooted)
    (parent : s.contains item.parent) (unused : s.contains id = false) :
    1 < (s.references ++ item.references id).count r ↔
      (r = ⟨item.parent, item.referenceType, id⟩ ∧ r ∈ s.references) ∨
        1 < s.references.count r := by
  have elsewhere : item.parent ≠ id := ne_of_unused parent unused
  have distinct : (item.references id).Nodup := by
    unfold AddNodeItem.references
    by_cases untyped : item.typeDefinition.isNull <;> simp [untyped, elsewhere]
  rw [twice_append distinct, AddNodeItem.mem_references]
  constructor
  · rintro (⟨stored, above | ⟨-, rfl⟩⟩ | twice)
    · exact .inl ⟨above, stored⟩
    · exact absurd rfl (ne_of_unused (rooted _ stored) unused)
    · exact .inr twice
  · rintro (⟨above, stored⟩ | twice)
    · exact .inl ⟨stored, .inl above⟩
    · exact .inr twice

/-- A reference is stored twice if an addition has just stored it again, or if it was stored twice
before and is still there. -/
theorem Outcome.twice_iff (rooted : s.Rooted) (h : Outcome now s service item result s') :
    1 < s'.references.count r ↔
      s.Doubles r (⟨now, service, item⟩, ⟨service, result⟩) ∨
        1 < s.references.count r ∧ r ∈ s'.references := by
  cases h with
  | read => simpa [Doubles] using stored_of_twice
  | refused _ _ status bad => simpa [not_doubles_refused bad] using stored_of_twice
  | written => simpa [Doubles] using stored_of_twice
  | @added item id nextId admitted assigned =>
    have unused := assignId_unused admitted.unused assigned
    rw [references_attach, twice_attach rooted admitted.parent unused, List.mem_append]
    simp only [Doubles, true_and]
    exact or_congr_right ⟨fun twice => ⟨twice, .inl (stored_of_twice twice)⟩, And.left⟩
  | @linked item source referenceType target classFits isNew =>
    have absent : ¬ (r ∈ s.references ∧ r ∈ [item.reference]) := by
      rintro ⟨stored, new⟩
      exact isNew (List.mem_singleton.mp new ▸ stored)
    rw [twice_append (List.nodup_singleton _), or_iff_right absent]
    simp only [Doubles, false_or, List.mem_append]
    exact ⟨fun twice => ⟨twice, .inl (stored_of_twice twice)⟩, And.left⟩
  | deleted | abandoned =>
    simp only [Doubles, false_or, references_without]
    exact twice_filter
  | unlinked =>
    simp only [Doubles, false_or]
    exact twice_filter

/-! ### Runs -/

/-- An addition has stored a reference a second time, and it has been there since. -/
def StoredAgain (jobs : List Job) (r : Reference) : Prop :=
  ∃ before job later, jobs = before ++ job :: later ∧
    (standard.after before).Doubles r ((standard.after before).answered job) ∧
      ∀ since, since <+: later → r ∈ (standard.after (before ++ job :: since)).references

theorem storedAgain_iff (jobs : List Job) (r : Reference) :
    StoredAgain jobs r ↔
      Since (fun before job => (standard.after before).Doubles r ((standard.after before).answered job))
        (fun jobs => r ∈ (standard.after jobs).references) jobs := Iff.rfl

theorem after_twice_snoc :
    1 < (standard.after (jobs ++ [job])).references.count r ↔
      (standard.after jobs).Doubles r ((standard.after jobs).answered job) ∨
        1 < (standard.after jobs).references.count r ∧
          r ∈ (standard.after (jobs ++ [job])).references := by
  rw [after_snoc]
  exact (perform_outcome job.now job.service job.item _).twice_iff (after_rooted jobs)

theorem storedAgain_snoc :
    StoredAgain (jobs ++ [job]) r ↔
      (standard.after jobs).Doubles r ((standard.after jobs).answered job) ∨
        StoredAgain jobs r ∧ r ∈ (standard.after (jobs ++ [job])).references := by
  have stays (doubles : (standard.after jobs).Doubles r ((standard.after jobs).answered job)) :
      r ∈ (standard.after (jobs ++ [job])).references :=
    stored_of_twice (after_twice_snoc.mpr (.inl doubles))
  rw [storedAgain_iff (jobs ++ [job]), since_snoc, ← storedAgain_iff, and_or_left,
    and_iff_right_of_imp stays, and_comm (b := StoredAgain jobs r)]

/-- A reference is stored twice exactly if an addition stored it again and it was not deleted since.
-/
theorem after_twice_iff (jobs : List Job) (r : Reference) :
    1 < (standard.after jobs).references.count r ↔ StoredAgain jobs r := by
  induction jobs using List.reverseRecOn with
  | nil =>
    have unique : standard.references.Nodup := by decide
    have once := List.nodup_iff_count_le_one.mp unique r
    rw [storedAgain_iff, iff_false_right not_since_nil]
    exact Nat.not_lt.mpr once
  | append_singleton jobs job ih => rw [after_twice_snoc, storedAgain_snoc, ih]

theorem references_nodup_iff (jobs : List Job) :
    (standard.after jobs).references.Nodup ↔ ∀ r, ¬ StoredAgain jobs r := by
  rw [List.nodup_iff_count_le_one]
  exact forall_congr' fun r => Nat.not_lt.symm.trans (not_congr (after_twice_iff jobs r))

/-- Where a node is added back to its place, it was left behind. -/
theorem Outcome.doubled_leftBehind {events : List Event} (explained : Explained events s)
    (h : Outcome now s service item result s')
    (doubles : s.Doubles r (⟨now, service, item⟩, ⟨service, result⟩)) :
    LeftBehind events r.target := by
  cases h with
  | added admitted assigned =>
    obtain ⟨-, rfl, stored⟩ := doubles
    apply explained _ stored
    rw [assignId_unused admitted.unused assigned]
    exact Bool.false_ne_true
  | refused _ _ status bad => exact absurd doubles (not_doubles_refused bad)
  | _ => exact doubles.elim

theorem doubled_leftBehind (doubles : (standard.after jobs).Doubles r
    ((standard.after jobs).answered job)) : LeftBehind (standard.transcript jobs) r.target :=
  (perform_outcome job.now job.service job.item _).doubled_leftBehind (after_explained jobs) doubles

/-! ### Deletions -/

/-- Deleting a reference deletes every copy of it, and nothing else. -/
theorem deleteReference_count {item : DeleteReferenceItem}
    (stored : item.reference ∈ s.references) :
    (s.deleteReference item).2.referenceCount + s.references.count item.reference =
      s.referenceCount := by
  rw [deleteReference_of_stored stored, List.count, List.countP_eq_length_filter, Nat.add_comm]
  exact (List.length_eq_length_filter_add (· == item.reference)).symm

/-- Nothing is added back to its place if all deletions take the references along. -/
theorem not_storedAgain
    (flagged : ∀ now item, ⟨now, .deleteNodes, item⟩ ∈ jobs → item.deleteTargetReferences) :
    ¬ StoredAgain jobs r := by
  rintro ⟨before, job, later, rfl, doubles, -⟩
  exact not_leftBehind (fun now item deletion => flagged now item (List.mem_append_left _ deletion))
    (doubled_leftBehind doubles)

/-- After every run of services a reference is stored twice exactly if a node was added back to
which it had been left behind, and it was not deleted since. -/
theorem references_stored_once_unless_added_back (jobs : List Job) :
    let s := standard.after jobs
    (∀ r, 1 < s.references.count r ↔ StoredAgain jobs r) ∧
      (s.references.Nodup ↔ ∀ r, ¬ StoredAgain jobs r) ∧
      (∀ job r, s.Doubles r (s.answered job) → LeftBehind (standard.transcript jobs) r.target) ∧
      (∀ item : DeleteReferenceItem, item.reference ∈ s.references →
        (s.deleteReference item).1 = .good ∧
        ((s.deleteReference item).2.referenceCount + 1 = s.referenceCount ↔
          ¬ StoredAgain jobs item.reference)) ∧
      ((∀ now item, ⟨now, .deleteNodes, item⟩ ∈ jobs → item.deleteTargetReferences) →
        s.references.Nodup) := by
  refine ⟨after_twice_iff jobs, references_nodup_iff jobs, fun _ _ => doubled_leftBehind,
    fun item stored => ⟨?_, ?_⟩, fun flagged => ?_⟩
  · rw [deleteReference_of_stored stored]
  · have fewer := deleteReference_count stored
    have some_stored := List.count_pos_iff.mpr stored
    rw [← after_twice_iff]
    omega
  · exact (references_nodup_iff jobs).mpr fun _ => not_storedAgain flagged

/-- A folder that is deleted, but not the reference to it, and added again: the folder above refers
to it twice, and deleting that reference deletes both copies. -/
theorem folder_added_back :
    let id : NodeId := .numeric 1 1
    let addition : Job := ⟨.epoch, .addNodes, .ofKind .folder .objectsFolder id "A"⟩
    let deletion : Job := ⟨.epoch, .deleteNodes, ⟨id, false⟩⟩
    let jobs := [addition, deletion, addition]
    let reference : Reference := ⟨.objectsFolder, .organizes, id⟩
    let s := standard.after jobs
    StoredAgain jobs reference ∧ ¬ s.references.Nodup ∧
      (s.deleteReference ⟨.objectsFolder, .organizes, true, id, true⟩).2.referenceCount + 1 ≠
        s.referenceCount ∧
      LeftBehind (standard.transcript [addition, deletion]) id := by
  intro id addition deletion jobs reference s
  have general := references_stored_once_unless_added_back jobs
  have again : StoredAgain jobs reference := (general.1 reference).mp (by decide)
  have unlinking := general.2.2.2.1 ⟨.objectsFolder, .organizes, true, id, true⟩ (by decide)
  refine ⟨again, fun unique => general.2.1.mp unique reference again, ?_, ?_⟩
  · exact fun fewer => unlinking.2.mp fewer again
  · apply (references_stored_once_unless_added_back [addition, deletion]).2.2.1 addition reference
    exact ⟨rfl, rfl, by decide⟩

end OpcUa.AddressSpace
