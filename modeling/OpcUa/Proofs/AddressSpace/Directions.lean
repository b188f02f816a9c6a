import OpcUa.AddressSpace.Standard
import OpcUa.Proofs.AddressSpace.Outcomes

/-!
References seen from either end. The one record of a reference is added and deleted in the same way
from its source and from its target, and deleting a reference that was just added gives back the
address space as it was before.
-/

namespace OpcUa

theorem Reference.oriented_swap (source referenceType target : NodeId) (isForward : Bool) :
    oriented target referenceType source (!isForward) =
      oriented source referenceType target isForward := by
  cases isForward <;> rfl

/-- The same reference, named from its other end. -/
def AddReferenceItem.flipped (item : AddReferenceItem) : AddReferenceItem :=
  { item with source := item.target, target := item.source, isForward := !item.isForward }

/-- The same reference, named from its other end. -/
def DeleteReferenceItem.flipped (item : DeleteReferenceItem) : DeleteReferenceItem :=
  { item with source := item.target, target := item.source, isForward := !item.isForward }

/-- The deletion of the reference that an item adds, named from the same end. -/
def AddReferenceItem.deletion (item : AddReferenceItem) (bidirectional : Bool) :
    DeleteReferenceItem :=
  ⟨item.source, item.referenceType, item.isForward, item.target, bidirectional⟩

@[simp] theorem AddReferenceItem.reference_flipped (item : AddReferenceItem) :
    item.flipped.reference = item.reference :=
  Reference.oriented_swap ..

@[simp] theorem DeleteReferenceItem.reference_flipped (item : DeleteReferenceItem) :
    item.flipped.reference = item.reference :=
  Reference.oriented_swap ..

@[simp] theorem AddReferenceItem.reference_deletion (item : AddReferenceItem)
    (bidirectional : Bool) : (item.deletion bidirectional).reference = item.reference := rfl

namespace AddressSpace

variable {s : AddressSpace}

/-- Whether the record of a reference is stored. -/
theorem hasReference_iff {r : Reference} :
    s.hasReference r.source r.referenceType r.target ↔ r ∈ s.references :=
  List.contains_iff_mem

/-! ### Additions -/

theorem addReference_of_good {item : AddReferenceItem} (good : (s.addReference item).1 = .good) :
    item.reference ∉ s.references ∧
      (s.addReference item).2 = { s with references := s.references ++ [item.reference] } := by
  have outcome := addReference_outcome .epoch s item
  generalize s.addReference item = answer at good outcome ⊢
  obtain ⟨status, after⟩ := answer
  obtain rfl : status = .good := good
  cases outcome with
  | refused _ _ _ bad => exact absurd bad (by decide)
  | linked _ _ _ _ isNew => exact ⟨isNew, rfl⟩

/-- Between nodes that are there, only the type and the record of the reference are looked at. -/
theorem addReference_between {item : AddReferenceItem} (source : s.contains item.source)
    (target : s.contains item.target) (unclassed : item.targetClass = none) :
    s.addReference item =
      if !s.isReferenceType item.referenceType then (.badReferenceTypeIdInvalid, s)
      else if s.references.contains item.reference then (.badDuplicateReferenceNotAllowed, s)
      else (.good, { s with references := s.references ++ [item.reference] }) := by
  obtain ⟨node, found⟩ := contains_iff.mp target
  have classed : s.class? item.target = some node.nodeClass := congrArg (·.map Node.nodeClass) found
  unfold addReference
  simp only [source, classed, unclassed, Option.getD_none, Bool.not_true, Bool.false_eq_true,
    if_false, ne_eq, not_true]

theorem addReference_flipped {item : AddReferenceItem} (source : s.contains item.source)
    (target : s.contains item.target) (unclassed : item.targetClass = none) :
    s.addReference item.flipped = s.addReference item := by
  have there : s.addReference item.flipped = _ :=
    @addReference_between s item.flipped target source unclassed
  rw [there, addReference_between source target unclassed, AddReferenceItem.reference_flipped]
  rfl

/-! ### Deletions -/

/-- Only the record of the reference counts, not the end from which it is named. -/
theorem deleteReference_congr {item other : DeleteReferenceItem}
    (same : item.reference = other.reference) : s.deleteReference item = s.deleteReference other := by
  unfold deleteReference
  rw [same]

/-- A new reference is the last one, and deleting it leaves the others in their order. -/
theorem deleteReference_added {r : Reference} {item : DeleteReferenceItem} (isNew : r ∉ s.references)
    (same : item.reference = r) :
    { s with references := s.references ++ [r] }.deleteReference item = (.good, s) := by
  have stored : item.reference ∈ s.references ++ [r] := by simp [same]
  rw [deleteReference_of_stored stored, same, List.filter_append, filter_bne_of_not_mem isNew]
  simp

/-- What deleting a reference comes to: every copy of its record goes and nothing else does, or there
is none. -/
theorem deleteReference_eq (s : AddressSpace) (item : DeleteReferenceItem) :
    s.deleteReference item =
      (if item.reference ∈ s.references then .good else .badNotFound,
        { s with references := s.references.filter (· != item.reference) }) := by
  by_cases stored : item.reference ∈ s.references
  · rw [deleteReference_of_stored stored, if_pos stored]
  · rw [deleteReference_of_absent stored, if_neg stored, filter_bne_of_not_mem stored]

theorem badNotFound_ne_good : StatusCode.badNotFound ≠ .good := by decide

theorem deleteReference_good_iff {item : DeleteReferenceItem} :
    (s.deleteReference item).1 = .good ↔ item.reference ∈ s.references := by
  rw [deleteReference_eq]
  by_cases stored : item.reference ∈ s.references <;> simp [stored, badNotFound_ne_good]

/-- A reference can be added from either end and deleted from either end, whatever is said of both
directions; the deletion gives back the address space from before the addition. -/
theorem references_added_and_deleted_from_either_end (s : AddressSpace) :
    (∀ item : AddReferenceItem, (s.addReference item).1 = .good → ∀ bidirectional,
      (s.addReference item).2.deleteReference (item.deletion bidirectional) = (.good, s) ∧
        (s.addReference item).2.deleteReference (item.deletion bidirectional).flipped =
          (.good, s)) ∧
      (∀ item : DeleteReferenceItem,
        (∀ bidirectional, s.deleteReference
            { item.flipped with deleteBidirectional := bidirectional } = s.deleteReference item) ∧
          (s.deleteReference item).2 =
            { s with references := s.references.filter (· != item.reference) } ∧
          let r := item.reference
          ((s.deleteReference item).1 = .good ↔
            s.hasReference r.source r.referenceType r.target) ∧
            (s.deleteReference item = (.badNotFound, s) ↔
              s.hasReference r.source r.referenceType r.target = false)) ∧
      (∀ item : AddReferenceItem, s.contains item.source → s.contains item.target →
        item.targetClass = none → s.addReference item.flipped = s.addReference item) := by
  refine ⟨fun item good bidirectional => ?_, fun item => ⟨?_, ?_, ?_, ?_⟩,
    fun item source target unclassed => addReference_flipped source target unclassed⟩
  · obtain ⟨isNew, added⟩ := addReference_of_good good
    rw [added]
    exact ⟨deleteReference_added isNew rfl,
      deleteReference_added isNew (DeleteReferenceItem.reference_flipped _)⟩
  · exact fun _ => deleteReference_congr (DeleteReferenceItem.reference_flipped item)
  · rw [deleteReference_eq]
  · rw [hasReference_iff]
    exact deleteReference_good_iff
  · rw [← Bool.not_eq_true, hasReference_iff]
    constructor
    · intro absent stored
      have good := deleteReference_good_iff.mpr stored
      rw [absent] at good
      exact badNotFound_ne_good good
    · exact deleteReference_of_absent

/-- The views folder organizes the objects folder, and the other way round; each reference is deleted
from its target and leaves the opposite one. A folder that organizes itself is as good. -/
theorem opposite_reference_kept :
    let opposite : AddReferenceItem := .between .viewsFolder .objectsFolder .organizes true
    let s := (standard.addReference opposite).2
    let item : AddReferenceItem := .between .viewsFolder .objectsFolder .organizes false
    let loop : AddReferenceItem := .between .viewsFolder .viewsFolder .organizes false
    (s.addReference item).1 = .good ∧
      (s.addReference item).2.deleteReference (item.deletion false).flipped = (.good, s) ∧
      s.hasReference .viewsFolder .organizes .objectsFolder ∧
      s.deleteReference (item.deletion true) = (.badNotFound, s) ∧
      s.addReference item.flipped = s.addReference item ∧
      (s.addReference loop).2.deleteReference (loop.deletion true) = (.good, s) := by
  intro opposite s item loop
  obtain ⟨restored, deletions, additions⟩ := references_added_and_deleted_from_either_end s
  have good : (s.addReference item).1 = .good := by decide
  refine ⟨good, (restored item good false).2, by decide, ?_, ?_, ?_⟩
  · exact (deletions (item.deletion true)).2.2.2.mpr (by decide)
  · exact additions item (by decide) (by decide) rfl
  · exact (restored loop (by decide) true).1

end AddressSpace

end OpcUa
