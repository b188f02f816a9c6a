import OpcUa.AddressSpace.Services
import OpcUa.Proofs.AddressSpace.Identifiers

/-!
What carrying out an item can come to. `Outcome` has one case for each thing that can happen to an
address space, with the conditions under which it happens; everything that all operations keep is
shown by going through these cases.
-/

namespace OpcUa

/-- The references that come with a new node: from its parent, and to its type. -/
def AddNodeItem.references (item : AddNodeItem) (id : NodeId) : List Reference :=
  ⟨item.parent, item.referenceType, id⟩ ::
    if item.typeDefinition.isNull then [] else [⟨id, .hasTypeDefinition, item.typeDefinition⟩]

theorem AddNodeItem.mem_references {item : AddNodeItem} {id : NodeId} {r : Reference} :
    r ∈ item.references id ↔
      r = ⟨item.parent, item.referenceType, id⟩ ∨
        item.typeDefinition.isNull = false ∧ r = ⟨id, .hasTypeDefinition, item.typeDefinition⟩ := by
  unfold references
  by_cases untyped : item.typeDefinition.isNull <;> simp [untyped]

/-- A reference joins the two nodes that are given for it, the one way or the other. -/
theorem AddReferenceItem.reference_ends (item : AddReferenceItem) :
    (item.reference.source = item.source ∧ item.reference.target = item.target) ∨
      (item.reference.source = item.target ∧ item.reference.target = item.source) := by
  unfold reference Reference.oriented
  split
  · exact .inl ⟨rfl, rfl⟩
  · exact .inr ⟨rfl, rfl⟩

theorem AddReferenceItem.reference_referenceType (item : AddReferenceItem) :
    item.reference.referenceType = item.referenceType := by
  unfold reference Reference.oriented
  split <;> rfl

/-- Whether a reference outlives the deletion of a node. -/
def DeleteNodeItem.keeps (item : DeleteNodeItem) (r : Reference) : Bool :=
  r.source != item.node && !(item.deleteTargetReferences && r.target == item.node)

theorem DeleteNodeItem.keeps_iff {item : DeleteNodeItem} {r : Reference} :
    item.keeps r ↔
      r.source ≠ item.node ∧ (item.deleteTargetReferences = true → r.target ≠ item.node) := by
  cases flag : item.deleteTargetReferences <;> simp [keeps, flag]

namespace AddressSpace

variable {now : Timestamp} {s s' : AddressSpace}

/-! ### Checks of new nodes -/

/-- What a new node has to meet. -/
structure Admits (s : AddressSpace) (item : AddNodeItem) : Prop where
  parent : s.contains item.parent
  referenceType : s.isReferenceType item.referenceType
  below : s.checkParent item = .ok ()
  unused : item.requestedId = .null ∨ s.contains item.requestedId = false
  named : item.browseName.isNull = false
  typed : s.typeDefinitionFits item
  attributes : attributesFit item.nodeClass item.attributes

theorem bind_ok {x : Except StatusCode Unit} {f : Unit → Except StatusCode Unit} :
    (x >>= f) = .ok () ↔ x = .ok () ∧ f () = .ok () := by
  cases x <;> simp [bind, Except.bind]

theorem bind_error {x : Except StatusCode Unit} {f : Unit → Except StatusCode Unit}
    {status : StatusCode} :
    (x >>= f) = .error status ↔ x = .error status ∨ x = .ok () ∧ f () = .error status := by
  cases x <;> simp [bind, Except.bind]

theorem require_ok {met : Bool} {status : StatusCode} : require met status = .ok () ↔ met := by
  cases met <;> simp [require]

theorem require_error {met : Bool} {status other : StatusCode} :
    require met status = .error other ↔ met = false ∧ status = other := by
  cases met <;> simp [require]

theorem checkNewNode_ok {item : AddNodeItem} : s.checkNewNode item = .ok () ↔ s.Admits item := by
  simp only [checkNewNode, bind_ok, require_ok, Bool.or_eq_true, isNull_iff, Bool.not_eq_true']
  constructor
  · rintro ⟨parent, referenceType, below, unused, named, typed, attributes⟩
    exact ⟨parent, referenceType, below, unused, named, typed, attributes⟩
  · intro h
    exact ⟨h.parent, h.referenceType, h.below, h.unused, h.named, h.typed, h.attributes⟩

/-- Types hang below types of their class, as subtypes; all others hang in other ways. -/
theorem checkParent_ok {item : AddNodeItem} :
    s.checkParent item = .ok () ↔
      if item.nodeClass.isType then
        s.class? item.parent = some item.nodeClass ∧ item.referenceType = .hasSubtype
      else item.referenceType ≠ .hasSubtype := by
  unfold checkParent
  by_cases isType : item.nodeClass.isType
  · by_cases alike : s.class? item.parent = some item.nodeClass <;> simp [isType, alike]
  · simp [isType]

/-- Where a type is asked for, the one that is named has its class; otherwise none is named. -/
theorem typeDefinitionFits_iff {item : AddNodeItem} :
    s.typeDefinitionFits item ↔
      (∀ c, typeClass? item.nodeClass = some c → s.class? item.typeDefinition = some c) ∧
        (typeClass? item.nodeClass = none → item.typeDefinition = .null) := by
  unfold typeDefinitionFits
  cases typeClass? item.nodeClass <;> simp [isNull_iff]

theorem checkParent_bad {item : AddNodeItem} {status : StatusCode}
    (h : s.checkParent item = .error status) : status.isBad := by
  unfold checkParent at h
  split at h
  · split at h <;> cases h
    rfl
  · split at h
    · cases h
      rfl
    · split at h <;> cases h
      rfl

theorem checkNewNode_bad {item : AddNodeItem} {status : StatusCode}
    (h : s.checkNewNode item = .error status) : status.isBad := by
  simp only [checkNewNode, bind_error, require_error] at h
  rcases h with ⟨-, rfl⟩ | ⟨-, ⟨-, rfl⟩ | ⟨-, below | ⟨-, ⟨-, rfl⟩ | ⟨-, ⟨-, rfl⟩ | ⟨-, ⟨-, rfl⟩ |
    ⟨-, -, rfl⟩⟩⟩⟩⟩⟩
  case inr.inr.inl => exact checkParent_bad below
  all_goals rfl

/-- The type that a node is linked to exists. -/
theorem Admits.type_present {item : AddNodeItem} (h : s.Admits item)
    (given : item.typeDefinition.isNull = false) : s.contains item.typeDefinition := by
  obtain ⟨typed, untyped⟩ := typeDefinitionFits_iff.mp h.typed
  cases asked : typeClass? item.nodeClass with
  | some c => exact contains_of_class? (typed c asked)
  | none =>
    rw [isNull_iff.mpr (untyped asked)] at given
    cases given

/-! ### New nodes -/

/-- A node that is there has another identifier than one that is not. -/
theorem ne_of_unused {id key : NodeId} (present : s.contains key) (unused : s.contains id = false) :
    key ≠ id := by
  rintro rfl
  rw [present] at unused
  contradiction

@[simp] theorem node?_attach {item : AddNodeItem} {id key : NodeId} :
    (s.attach now item id).node? key =
      if id = key then
        some ((Node.ofClass id item.nodeClass item.browseName).withAttributes item.attributes now)
      else s.node? key := by
  unfold attach
  by_cases untyped : item.typeDefinition.isNull <;> simp [untyped]

theorem contains_attach {item : AddNodeItem} {id key : NodeId} :
    (s.attach now item id).contains key ↔ id = key ∨ s.contains key := by
  rw [contains_iff, node?_attach, contains_iff]
  by_cases same : id = key <;> simp [same]

@[simp] theorem references_attach {item : AddNodeItem} {id : NodeId} :
    (s.attach now item id).references = s.references ++ item.references id := by
  unfold attach AddNodeItem.references
  by_cases untyped : item.typeDefinition.isNull <;> simp [untyped]

@[simp] theorem nextId_attach {item : AddNodeItem} {id : NodeId} :
    (s.attach now item id).nextId = s.nextId := by
  unfold attach
  by_cases untyped : item.typeDefinition.isNull <;> simp [untyped, link, putNode]

/-! ### Deletions -/

/-- Where there is no copy of an element, none is taken away. -/
theorem filter_bne_of_not_mem {α : Type} [BEq α] [LawfulBEq α] {a : α} {l : List α}
    (absent : a ∉ l) : l.filter (· != a) = l := by
  apply List.filter_eq_self.mpr
  intro other member
  simpa using fun same : other = a => absent (same ▸ member)

/-- The address space without a node, and without the references that go with it. -/
def without (s : AddressSpace) (item : DeleteNodeItem) : AddressSpace :=
  { s with table := s.table.erase item.node, references := s.references.filter item.keeps }

/-- Whether references to a node outlive its deletion. -/
def StillReferred (s : AddressSpace) (item : DeleteNodeItem) : Prop :=
  item.deleteTargetReferences = false ∧
    ∃ r ∈ s.references, r.source ≠ item.node ∧ r.target = item.node

instance (item : DeleteNodeItem) : Decidable (s.StillReferred item) :=
  inferInstanceAs (Decidable (_ ∧ _))

@[simp] theorem node?_without {item : DeleteNodeItem} {key : NodeId} :
    (s.without item).node? key = if item.node = key then none else s.node? key :=
  NodeTable.find?_erase ..

theorem contains_without {item : DeleteNodeItem} {key : NodeId} :
    (s.without item).contains key ↔ item.node ≠ key ∧ s.contains key := by
  rw [contains_iff, node?_without, contains_iff]
  by_cases same : item.node = key <;> simp [same]

@[simp] theorem references_without {item : DeleteNodeItem} :
    (s.without item).references = s.references.filter item.keeps := rfl

/-! ### Outcomes -/

/-- The result of an item that is refused. -/
def refusal : (service : Service) → StatusCode → service.Result
  | .read, status => .ofStatus status
  | .addNodes, status => ⟨status, .null⟩
  | .write, status | .addReferences, status | .deleteNodes, status
  | .deleteReferences, status => status

/-- What an item can come to: its result, and the address space after it. -/
inductive Outcome (now : Timestamp) (s : AddressSpace) :
    (service : Service) → service.Item → service.Result → AddressSpace → Prop
  | read (item : ReadItem) : Outcome now s .read item (s.read now item) s
  | refused (service : Service) (item : service.Item) (status : StatusCode)
      (bad : status.isBad) : Outcome now s service item (refusal service status) s
  | written {item : WriteItem} {node : Node} (found : s.node? item.node = some node)
      (isVariable : node.nodeClass = .variable) (isValue : item.attributeId = .value)
      (fitting : fits (node.value.getD {}).value item.value.value) :
      Outcome now s .write item .good
        (s.putNode item.node { node with value := some (item.value.written now) })
  | added {item : AddNodeItem} {id : NodeId} {nextId : UInt32} (admitted : s.Admits item)
      (assigned : s.assignId item.requestedId = .ok (id, nextId)) :
      Outcome now s .addNodes item ⟨.good, id⟩ ({ s with nextId := nextId }.attach now item id)
  | linked {item : AddReferenceItem} (source : s.contains item.source)
      (referenceType : s.isReferenceType item.referenceType) (target : s.contains item.target)
      (classFits : ∀ c, item.targetClass = some c → s.class? item.target = some c)
      (isNew : item.reference ∉ s.references) :
      Outcome now s .addReferences item .good
        { s with references := s.references ++ [item.reference] }
  | deleted {item : DeleteNodeItem} (present : s.contains item.node)
      (gone : ¬ s.StillReferred item) : Outcome now s .deleteNodes item .good (s.without item)
  | abandoned {item : DeleteNodeItem} (present : s.contains item.node)
      (referred : s.StillReferred item) :
      Outcome now s .deleteNodes item .uncertainReferenceNotDeleted (s.without item)
  | unlinked {item : DeleteReferenceItem} (stored : item.reference ∈ s.references) :
      Outcome now s .deleteReferences item .good
        { s with references := s.references.filter (· != item.reference) }

theorem write_outcome (now : Timestamp) (s : AddressSpace) (item : WriteItem) :
    Outcome now s .write item (s.write now item).1 (s.write now item).2 := by
  unfold write
  split
  next => exact .refused .write item .badNodeIdUnknown rfl
  next node found =>
    split
    next => exact .refused .write item .badNotWritable rfl
    next writable =>
      obtain ⟨isValue, isVariable⟩ := not_or.mp writable
      by_cases fitting : fits (node.value.getD {}).value item.value.value
      · simp only [fitting, Bool.not_true, Bool.false_eq_true, if_false, putNode_putNode]
        exact .written found (not_not.mp isVariable) (not_not.mp isValue) fitting
      · -- A value that does not fit cannot be meant to fill in a missing one, so the node is
        -- as it was.
        have held : ∃ v, node.value = some v := by
          cases held : node.value with
          | some v => exact ⟨v, rfl⟩
          | none => simp [held, fits, Variant.isEmpty] at fitting
        obtain ⟨v, held⟩ := held
        have same : { node with value := some (node.value.getD {}) } = node := by
          rw [held, Option.getD_some, ← held]
        simp only [fitting, Bool.not_false, if_true, same, putNode_self found]
        exact .refused .write item .badTypeMismatch rfl

theorem addNode_outcome (now : Timestamp) (s : AddressSpace) (item : AddNodeItem) :
    Outcome now s .addNodes item (s.addNode now item).1 (s.addNode now item).2 := by
  unfold addNode
  split
  next status failed => exact .refused .addNodes item status (checkNewNode_bad failed)
  next passed =>
    split
    next status failed =>
      have bad : status.isBad := by
        unfold assignId at failed
        split at failed
        · cases failed
        · split at failed <;> cases failed
          rfl
      exact .refused .addNodes item status bad
    next id nextId assigned => exact .added (checkNewNode_ok.mp passed) assigned

theorem addNode_of_assigned {item : AddNodeItem} {id : NodeId} {nextId : UInt32}
    (admitted : s.Admits item) (assigned : s.assignId item.requestedId = .ok (id, nextId)) :
    s.addNode now item = (⟨.good, id⟩, { s with nextId := nextId }.attach now item id) := by
  simp only [addNode, checkNewNode_ok.mpr admitted, assigned]

theorem addReference_outcome (now : Timestamp) (s : AddressSpace) (item : AddReferenceItem) :
    Outcome now s .addReferences item (s.addReference item).1 (s.addReference item).2 := by
  unfold addReference
  by_cases source : s.contains item.source
  · by_cases referenceType : s.isReferenceType item.referenceType
    · simp only [source, referenceType, Bool.not_true, Bool.false_eq_true, if_false]
      split
      next => exact .refused .addReferences item .badTargetNodeIdInvalid rfl
      next c target =>
        split
        next => exact .refused .addReferences item .badNodeClassInvalid rfl
        next classFits =>
          split
          next => exact .refused .addReferences item .badDuplicateReferenceNotAllowed rfl
          next isNew =>
            refine .linked source referenceType (contains_of_class? target) ?_ (by simpa using isNew)
            intro d given
            rw [given, Option.getD_some, not_not] at classFits
            rw [target, classFits]
    · simp only [source, referenceType, Bool.not_true, Bool.false_eq_true, if_false,
        Bool.not_false, if_true]
      exact .refused .addReferences item .badReferenceTypeIdInvalid rfl
  · simp only [source, Bool.not_false, if_true]
    exact .refused .addReferences item .badSourceNodeIdInvalid rfl

theorem deleteNode_of_present {item : DeleteNodeItem} (present : s.contains item.node) :
    s.deleteNode item =
      (if s.StillReferred item then .uncertainReferenceNotDeleted else .good, s.without item) := by
  unfold deleteNode
  simp only [present, Bool.not_true, Bool.false_eq_true, if_false]
  cases flag : item.deleteTargetReferences with
  | true =>
    have gone : ¬ s.StillReferred item := by simp [StillReferred, flag]
    have keeps : (fun r : Reference => r.target != item.node && r.source != item.node) =
        item.keeps := by
      funext r
      simp [DeleteNodeItem.keeps, flag, Bool.and_comm, bne]
    simp only [if_true, if_neg gone, List.filter_filter, keeps, without]
  | false =>
    have keeps : (fun r : Reference => r.source != item.node) = item.keeps := by
      funext r
      simp [DeleteNodeItem.keeps, flag]
    have referred : (s.references.filter fun r => r.source != item.node).any
        (·.target == item.node) ↔ s.StillReferred item := by
      simp [StillReferred, flag]
    rw [keeps] at referred
    simp only [Bool.false_eq_true, if_false, keeps, referred, without]
    split <;> rfl

theorem deleteNode_outcome (now : Timestamp) (s : AddressSpace) (item : DeleteNodeItem) :
    Outcome now s .deleteNodes item (s.deleteNode item).1 (s.deleteNode item).2 := by
  by_cases present : s.contains item.node
  · rw [deleteNode_of_present present]
    by_cases referred : s.StillReferred item
    · rw [if_pos referred]
      exact .abandoned present referred
    · rw [if_neg referred]
      exact .deleted present referred
  · unfold deleteNode
    simp only [present, Bool.not_false, if_true]
    exact .refused .deleteNodes item .badNodeIdUnknown rfl

theorem deleteReference_of_stored {item : DeleteReferenceItem}
    (stored : item.reference ∈ s.references) :
    s.deleteReference item =
      (.good, { s with references := s.references.filter (· != item.reference) }) := by
  have fewer : (s.references.filter (· != item.reference)).length < s.references.length := by
    apply List.length_filter_lt_length_iff_exists.mpr
    exact ⟨item.reference, stored, by simp⟩
  unfold deleteReference referenceCount
  exact if_neg (Nat.ne_of_lt fewer)

theorem deleteReference_of_absent {item : DeleteReferenceItem}
    (absent : item.reference ∉ s.references) : s.deleteReference item = (.badNotFound, s) := by
  unfold deleteReference
  simp only [filter_bne_of_not_mem absent, if_true]

theorem deleteReference_outcome (now : Timestamp) (s : AddressSpace)
    (item : DeleteReferenceItem) :
    Outcome now s .deleteReferences item (s.deleteReference item).1 (s.deleteReference item).2 := by
  by_cases stored : item.reference ∈ s.references
  · rw [deleteReference_of_stored stored]
    exact .unlinked stored
  · rw [deleteReference_of_absent stored]
    exact .refused .deleteReferences item .badNotFound rfl

/-- Carrying out an item comes to one of the outcomes. -/
theorem perform_outcome (now : Timestamp) (service : Service) (item : service.Item)
    (s : AddressSpace) :
    Outcome now s service item (perform now service item s).1 (perform now service item s).2 := by
  cases service with
  | read => exact .read item
  | write => exact write_outcome now s item
  | addNodes => exact addNode_outcome now s item
  | addReferences => exact addReference_outcome now s item
  | deleteNodes => exact deleteNode_outcome now s item
  | deleteReferences => exact deleteReference_outcome now s item

end AddressSpace

end OpcUa
