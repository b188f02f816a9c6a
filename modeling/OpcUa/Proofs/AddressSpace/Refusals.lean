import OpcUa.AddressSpace.Standard
import OpcUa.Proofs.AddressSpace.Outcomes

/-!
Operations are all or nothing: an item with a bad status has changed nothing, and a node that is
added gets an identifier that was free.
-/

namespace OpcUa.AddressSpace

variable {now : Timestamp} {s s' : AddressSpace}

theorem Outcome.unchanged_of_bad {service : Service} {item : service.Item}
    {result : service.Result} (h : Outcome now s service item result s')
    (bad : (service.resultStatus result).isBad) : s' = s := by
  have good : ¬ StatusCode.good.isBad := by decide
  have uncertain : ¬ StatusCode.uncertainReferenceNotDeleted.isBad := by decide
  cases h with
  | read | refused => rfl
  | written | added | linked | deleted | unlinked => exact absurd bad good
  | abandoned => exact absurd bad uncertain

/-- An identifier is told exactly if a node was added, and it is that of a new node. -/
theorem Outcome.added_or_refused {item : AddNodeItem} {result : AddNodeResult}
    (h : Outcome now s .addNodes item result s') :
    (result.status.isBad ∧ result.addedId = .null) ∨
      (s.Admits item ∧ result.status = .good ∧ result.addedId ≠ .null ∧
        s.contains result.addedId = false ∧ s'.contains result.addedId) := by
  cases h with
  | refused _ _ status bad => exact .inl ⟨bad, rfl⟩
  | added admitted assigned =>
    refine .inr ⟨admitted, rfl, assignId_ne_null assigned, ?_, ?_⟩
    · exact assignId_unused admitted.unused assigned
    · exact contains_iff.mpr ⟨_, by rw [node?_attach, if_pos rfl]⟩

theorem admits_of_good {item : AddNodeItem} (good : (s.addNode now item).1.status = .good) :
    s.Admits item := by
  rcases (addNode_outcome now s item).added_or_refused with ⟨bad, -⟩ | ⟨admitted, -⟩
  · rw [good] at bad
    exact absurd bad (by decide)
  · exact admitted

/-- A node that meets the checks is added as long as there is an identifier for it. -/
theorem addNode_good {item : AddNodeItem} (free : ∃ n, s.contains (candidate n) = false)
    (admitted : s.Admits item) : (s.addNode now item).1.status = .good := by
  obtain ⟨⟨id, nextId⟩, assigned⟩ := assignId_ends free item.requestedId
  rw [addNode_of_assigned admitted assigned]

/-- While a number of the server's namespace is free, every item whose status is bad has left the
address space as it was, and an item for a new node is refused exactly if it fails the checks. -/
theorem refused_operations_change_nothing (s : AddressSpace) (now : Timestamp)
    (free : ∃ n, s.contains (candidate n) = false) :
    (∀ (service : Service) (item : service.Item),
      (service.resultStatus (perform now service item s).1).isBad →
        (perform now service item s).2 = s) ∧
      ∀ item : AddNodeItem,
        ((s.addNode now item).1.status.isBad ↔ ¬ s.Admits item) ∧
          ((s.addNode now item).1.status.isBad → (s.addNode now item).1.addedId = .null) ∧
          ((s.addNode now item).1.status.isBad = false →
            (s.addNode now item).1.status = .good ∧ (s.addNode now item).1.addedId ≠ .null ∧
              s.contains (s.addNode now item).1.addedId = false ∧
              (s.addNode now item).2.contains (s.addNode now item).1.addedId) := by
  constructor
  · intro service item bad
    exact (perform_outcome now service item s).unchanged_of_bad bad
  · intro item
    have good_of_admitted : s.Admits item → (s.addNode now item).1.status = .good :=
      addNode_good free
    rcases (addNode_outcome now s item).added_or_refused with ⟨bad, blank⟩ | ⟨admitted, good, new⟩
    · refine ⟨⟨fun _ admitted => ?_, fun _ => bad⟩, fun _ => blank, fun fine => ?_⟩
      · rw [good_of_admitted admitted] at bad
        exact absurd bad (by decide)
      · rw [bad] at fine
        cases fine
    · have fine : ¬ (s.addNode now item).1.status.isBad := by
        rw [good]
        decide
      exact ⟨⟨fun bad => absurd bad fine, fun refused => absurd admitted refused⟩,
        fun bad => absurd bad fine, fun _ => ⟨good, new⟩⟩

/-- A variable that is kept under an identifier other than its own, as no operation leaves it: a
text for its number is refused, and a folder gets the first identifier of the server. -/
theorem misplaced_variable_keeps_number :
    let misplaced : Node :=
      { Node.ofClass (.numeric 1 8) .variable ⟨1, "v"⟩ with value := some (.ofVariant (.int32 0)) }
    let s := standard.putNode (.numeric 1 7) misplaced
    let text : WriteItem := ⟨.numeric 1 7, .value, .ofVariant (.string "x")⟩
    let folder := AddNodeItem.ofKind .folder .objectsFolder .null "A"
    (∃ n, s.contains (candidate n) = false) ∧
      (s.write .epoch text).1 = .badTypeMismatch ∧ (s.write .epoch text).2 = s ∧
      (s.addNode .epoch folder).1 = ⟨.good, .numeric 1 50000⟩ ∧
      s.contains (.numeric 1 50000) = false ∧
      (s.addNode .epoch folder).2.contains (.numeric 1 50000) := by
  intro misplaced s text folder
  have free : ∃ n, s.contains (candidate n) = false := ⟨0, by decide⟩
  have refused : (s.write .epoch text).1 = .badTypeMismatch := by decide
  have added : (s.addNode .epoch folder).1 = ⟨.good, .numeric 1 50000⟩ := by decide
  have general := refused_operations_change_nothing s .epoch free
  have kept := general.1 .write text
  have new := (general.2 folder).2.2
  rw [added] at new
  refine ⟨free, refused, kept ?_, added, (new (by decide)).2.2⟩
  show StatusCode.isBad (s.write .epoch text).1
  rw [refused]
  decide

end OpcUa.AddressSpace
