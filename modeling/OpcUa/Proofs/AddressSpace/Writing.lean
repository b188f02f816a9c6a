import OpcUa.Proofs.AddressSpace.Runs

/-!
What is written is read back. A variable holds the value that was last written to it, whatever is
done elsewhere, and reading it gives this value and its source timestamp; but the answer is always
good, also if the value was written as an uncertain or a bad one.
-/

namespace OpcUa.AddressSpace

variable {now : Timestamp} {s t : AddressSpace} {id : NodeId} {n : Node} {item : WriteItem}

/-! ### Writing -/

/-- What an item has to meet to be written: its node is a variable, its attribute the value, and the
value that is held or the incoming one is empty, or both are of one type. -/
structure Accepts (s : AddressSpace) (item : WriteItem) (node : Node) : Prop where
  found : s.node? item.node = some node
  isVariable : node.nodeClass = .variable
  isValue : item.attributeId = .value
  fitting : (node.value.getD {}).value = .empty ∨ item.value.value = .empty ∨
    (node.value.getD {}).value.typeName = item.value.value.typeName

theorem isEmpty_iff {v : Variant} : v.isEmpty ↔ v = .empty := by
  cases v <;> simp [Variant.isEmpty]

theorem fits_iff {current incoming : Variant} :
    fits current incoming ↔
      current = .empty ∨ incoming = .empty ∨ current.typeName = incoming.typeName := by
  simp [fits, isEmpty_iff, or_assoc]

theorem write_of_accepts (accepted : s.Accepts item n) :
    s.write now item =
      (.good, s.putNode item.node { n with value := some (item.value.written now) }) := by
  have fitting := fits_iff.mpr accepted.fitting
  unfold write
  simp only [accepted.found, accepted.isVariable, accepted.isValue, fitting, ne_eq, not_true,
    or_self, if_false, Bool.not_true, Bool.false_eq_true, putNode_putNode]

/-- What is not accepted is refused, and changes nothing. -/
theorem write_of_not_accepts (refused : ∀ n, ¬ s.Accepts item n) :
    (s.write now item).1.isBad ∧ (s.write now item).2 = s := by
  have outcome := write_outcome now s item
  generalize s.write now item = answer at outcome ⊢
  obtain ⟨status, after⟩ := answer
  cases outcome with
  | refused _ _ _ bad => exact ⟨bad, rfl⟩
  | written found isVariable isValue fitting =>
    exact absurd ⟨found, isVariable, isValue, fits_iff.mp fitting⟩ (refused _)

theorem write_good_iff : (s.write now item).1 = .good ↔ ∃ n, s.Accepts item n := by
  constructor
  · intro good
    by_contra none
    have bad : (s.write now item).1.isBad := (write_of_not_accepts (not_exists.mp none)).1
    rw [good] at bad
    exact absurd bad (by decide)
  · rintro ⟨n, accepted⟩
    rw [write_of_accepts accepted]

/-! ### Operations elsewhere -/

/-- Whether an item writes or deletes a node. Nothing else can change a node that is there. -/
def Concerns (id : NodeId) : (service : Service) → service.Item → Prop
  | .write, item => item.node = id
  | .deleteNodes, item => item.node = id
  | .read, _ | .addNodes, _ | .addReferences, _ | .deleteReferences, _ => False

theorem Outcome.node?_kept {service : Service} {item : service.Item} {result : service.Result}
    (elsewhere : ¬ Concerns id service item) (found : s.node? id = some n)
    (h : Outcome now s service item result t) : t.node? id = some n := by
  cases h with
  | read | refused | linked | unlinked => exact found
  | written => exact node?_putNode.trans ((if_neg elsewhere).trans found)
  | @added item new nextId admitted assigned =>
    have unused := assignId_unused admitted.unused assigned
    have other : id ≠ new := ne_of_unused (contains_iff.mpr ⟨n, found⟩) unused
    rw [node?_attach, if_neg other.symm]
    exact found
  | deleted | abandoned => exact node?_without.trans ((if_neg elsewhere).trans found)

/-- What comes of an address space by reading, and by operations on other nodes than a given one.
References to that node may be added and deleted. -/
inductive Elsewhere (id : NodeId) (s : AddressSpace) : AddressSpace → Prop
  | none : Elsewhere id s s
  | served {t : AddressSpace} (before : Elsewhere id s t) (now : Timestamp) (service : Service)
      (item : service.Item) (spared : ¬ Concerns id service item) :
      Elsewhere id s (perform now service item t).2
  | inserted {t : AddressSpace} (before : Elsewhere id s t) (parent : NodeId) {key : NodeId}
      (other : key ≠ id) (name : String) (value : Variant) (now : Timestamp) :
      Elsewhere id s (t.insertVariable parent key name value now)

theorem Elsewhere.node? (elsewhere : Elsewhere id s t) (found : s.node? id = some n) :
    t.node? id = some n := by
  induction elsewhere with
  | none => exact found
  | served _ now service item spared ih =>
    exact (perform_outcome now service item _).node?_kept spared ih
  | inserted _ parent other name value now ih =>
    simp only [insertVariable, node?_link, node?_putNode, if_neg other, ih]

/-! ### Reading -/

theorem read_value (found : s.node? id = some n) {v : DataValue} (held : n.value = some v) :
    s.read now ⟨id, .value⟩ = ⟨v.value, .good, v.sourceTimestamp, some now⟩ := by
  simp only [read, found, Node.attribute?, held, Option.map_some, Node.orInvalid, if_true,
    Option.bind_some]

/-- A value that was written well is read, with its time, until its node is written to again or
deleted; but the status of the answer is good, whatever status the value was written with. -/
theorem value_read_as_written_but_its_status (s t : AddressSpace) (item : WriteItem)
    (now later : Timestamp) (good : (s.write now item).1 = .good)
    (elsewhere : Elsewhere item.node (s.write now item).2 t) :
    let answer := t.read later ⟨item.node, .value⟩
    answer.value = item.value.value ∧
      answer.sourceTimestamp = some (item.value.sourceTimestamp.getD now) ∧
      answer.status = .good ∧
      (answer.status = item.value.status ↔ item.value.status = .good) := by
  obtain ⟨n, accepted⟩ := write_good_iff.mp good
  rw [write_of_accepts accepted] at elsewhere
  have found := elsewhere.node? (node?_putNode.trans (if_pos rfl))
  rw [read_value found rfl]
  refine ⟨rfl, ?_, rfl, eq_comm⟩
  show item.value.sourceTimestamp.or (some now) = _
  cases item.value.sourceTimestamp <;> rfl

/-- An uncertain value is written to a variable; a variable is added, and the first one is read: the
answer is good. -/
theorem uncertain_value_read_as_good :
    let id : NodeId := .numeric 1 1
    let measured : DataValue := ⟨.int32 2, .uncertainReferenceNotDeleted, none, none⟩
    let s := standard.insertVariable .objectsFolder id "v" (.int32 1) .epoch
    let written := (s.write .epoch ⟨id, .value, measured⟩).2
    let t := (perform .epoch .addNodes (.ofKind .variable id .null "w") written).2
    let answer := t.read .epoch ⟨id, .value⟩
    answer.value = .int32 2 ∧ answer.sourceTimestamp = some .epoch ∧
      answer.status = .good ∧ answer.status ≠ measured.status := by
  intro id measured s written t answer
  have elsewhere : Elsewhere id written t := .served .none _ _ _ fun concerned => concerned
  obtain ⟨value, source, status, same⟩ := value_read_as_written_but_its_status s t
    ⟨id, .value, measured⟩ .epoch .epoch (by decide) elsewhere
  refine ⟨value, source, status, ?_⟩
  intro told
  exact absurd (same.mp told) (by decide)

end OpcUa.AddressSpace
