import OpcUa.Proofs.AddressSpace.Runs

/-!
The shape of nodes. Whatever is done to an address space, a node is kept under its own identifier
and has the attributes of its class, no more and no fewer; so whether an attribute can be read is
decided by the class of its node.
-/

namespace OpcUa

/-- Whether nodes of a class have an attribute. -/
def NodeClass.Has (c : NodeClass) : AttributeId → Prop
  | .value | .dataType | .valueRank => c = .variable ∨ c = .variableType
  | .eventNotifier => c = .object ∨ c = .view
  | .accessLevel => c = .variable
  | .nodeId | .nodeClass | .browseName | .displayName | .description | .writeMask => True

instance (c : NodeClass) : (a : AttributeId) → Decidable (c.Has a)
  | .value | .dataType | .valueRank | .eventNotifier => inferInstanceAs (Decidable (_ ∨ _))
  | .accessLevel => inferInstanceAs (Decidable (_ = _))
  | .nodeId | .nodeClass | .browseName | .displayName | .description | .writeMask =>
    inferInstanceAs (Decidable True)

namespace Node

/-- A node is kept under its identifier, and its optional attributes are those of its class. -/
structure Shaped (id : NodeId) (n : Node) : Prop where
  id_eq : n.id = id
  value : n.value.isSome ↔ n.nodeClass = .variable ∨ n.nodeClass = .variableType
  dataType : n.dataType.isSome ↔ n.nodeClass = .variable ∨ n.nodeClass = .variableType
  valueRank : n.valueRank.isSome ↔ n.nodeClass = .variable ∨ n.nodeClass = .variableType
  eventNotifier : n.eventNotifier.isSome ↔ n.nodeClass = .object ∨ n.nodeClass = .view

/-- A node can be told apart and shown: its identifier is not null, and its names not empty. -/
structure Titled (id : NodeId) (n : Node) : Prop where
  id_ne : id ≠ .null
  browseName : n.browseName.name ≠ ""
  displayName : n.displayName.text ≠ ""

variable {id : NodeId} {n : Node} {now : Timestamp}

theorem shaped_ofClass (id : NodeId) (c : NodeClass) (name : QualifiedName) :
    (ofClass id c name).Shaped id := by
  constructor
  · rfl
  all_goals cases c <;> simp [ofClass, NodeClass.hasValue, NodeClass.hasEventNotifier]

/-- An attribute that is given only where it belongs does not change where it is present. -/
theorem isSome_or_iff {α : Type} {given held : Option α} {P : Prop} (present : held.isSome ↔ P)
    (fits : given.isSome → P) : (given.or held).isSome ↔ P := by
  cases given with
  | none => exact present
  | some _ => exact ⟨fun _ => fits rfl, fun _ => rfl⟩

theorem attributesFit_iff {c : NodeClass} {a : NodeAttributes} :
    AddressSpace.attributesFit c a ↔
      (a.value.isSome ∨ a.dataType.isSome ∨ a.valueRank.isSome →
        c = .variable ∨ c = .variableType) ∧
      (a.eventNotifier.isSome → c = .object ∨ c = .view) := by
  cases c <;>
    simp [AddressSpace.attributesFit, NodeClass.hasValue, NodeClass.hasEventNotifier, and_assoc]

theorem Shaped.withAttributes {a : NodeAttributes} (h : n.Shaped id)
    (fits : AddressSpace.attributesFit n.nodeClass a) : (n.withAttributes a now).Shaped id := by
  obtain ⟨ofVariables, ofNotifiers⟩ := attributesFit_iff.mp fits
  constructor
  · exact h.id_eq
  · apply isSome_or_iff h.value
    intro given
    exact ofVariables (.inl (by simpa using given))
  · apply isSome_or_iff h.dataType
    intro given
    exact ofVariables (.inr (.inl given))
  · apply isSome_or_iff h.valueRank
    intro given
    exact ofVariables (.inr (.inr given))
  · exact isSome_or_iff h.eventNotifier ofNotifiers

theorem Shaped.setValue (h : n.Shaped id) (isVariable : n.nodeClass = .variable) (v : DataValue) :
    { n with value := some v }.Shaped id where
  id_eq := h.id_eq
  value := ⟨fun _ => .inl isVariable, fun _ => rfl⟩
  dataType := h.dataType
  valueRank := h.valueRank
  eventNotifier := h.eventNotifier

/-- A node answers exactly for the attributes of its class. -/
theorem Shaped.attribute? (h : n.Shaped id) (a : AttributeId) :
    (n.nodeClass.Has a ∧ ∃ v, n.attribute? a = .ok v) ∨
      (¬ n.nodeClass.Has a ∧ n.attribute? a = .error .badAttributeIdInvalid) := by
  have optional : ∀ {α : Type} {held : Option α} {P : Prop} (f : α → Variant),
      (held.isSome ↔ P) → (P ∧ ∃ v, orInvalid (held.map f) = .ok v) ∨
        (¬ P ∧ orInvalid (held.map f) = .error .badAttributeIdInvalid) := by
    intro α held P f present
    cases held with
    | none => exact .inr ⟨fun p => by simpa using present.mpr p, rfl⟩
    | some x => exact .inl ⟨present.mp rfl, f x, rfl⟩
  cases a with
  | nodeId | nodeClass | browseName | displayName | description | writeMask =>
    exact .inl ⟨trivial, _, rfl⟩
  | value => exact optional DataValue.value h.value
  | dataType => exact optional .nodeId h.dataType
  | valueRank => exact optional .int32 h.valueRank
  | eventNotifier => exact optional .byte h.eventNotifier
  | accessLevel =>
    by_cases isVariable : n.nodeClass = .variable
    · exact .inl ⟨isVariable, .byte readWrite, by simp [Node.attribute?, isVariable, orInvalid]⟩
    · exact .inr ⟨isVariable, by simp [Node.attribute?, isVariable, orInvalid]⟩

theorem titled_withAttributes {c : NodeClass} {name : QualifiedName} {a : NodeAttributes}
    (given : id ≠ .null) (named : name.isNull = false) :
    ((ofClass id c name).withAttributes a now).Titled id := by
  have nonempty : name.name ≠ "" := by simpa [QualifiedName.isNull] using named
  refine ⟨given, nonempty, ?_⟩
  show (if a.displayName.text.isEmpty then LocalizedText.plain name.name
    else a.displayName).text ≠ ""
  split
  · exact nonempty
  · next shown => simpa using shown

end Node

namespace AddressSpace

variable {now : Timestamp} {s s' : AddressSpace} {P : NodeId → Node → Prop}

/-! ### What holds of every node -/

def Every (s : AddressSpace) (P : NodeId → Node → Prop) : Prop :=
  ∀ id node, s.node? id = some node → P id node

/-- A property that new nodes have, and that variables keep when their value is written. -/
structure Lasting (P : NodeId → Node → Prop) : Prop where
  added : ∀ {s : AddressSpace} {item : AddNodeItem} {id : NodeId} (now : Timestamp),
    s.Admits item → id ≠ .null →
      P id ((Node.ofClass id item.nodeClass item.browseName).withAttributes item.attributes now)
  written : ∀ {id : NodeId} {node : Node} (v : DataValue),
    P id node → node.nodeClass = .variable → P id { node with value := some v }

theorem Every.putNode {id : NodeId} {n : Node} (all : s.Every P) (new : P id n) :
    (s.putNode id n).Every P := by
  intro key node found
  rw [node?_putNode] at found
  split at found
  next same =>
    cases found
    exact same ▸ new
  next => exact all key node found

theorem Outcome.every {service : Service} {item : service.Item} {result : service.Result}
    (lasting : Lasting P) (all : s.Every P) (h : Outcome now s service item result s') :
    s'.Every P := by
  cases h with
  | read | refused | linked | unlinked => exact all
  | written found isVariable =>
    exact all.putNode (lasting.written _ (all _ _ found) isVariable)
  | added admitted assigned =>
    intro key node found
    rw [node?_attach] at found
    split at found
    next same =>
      cases found
      exact same ▸ lasting.added now admitted (assignId_ne_null assigned)
    next => exact all key node found
  | deleted | abandoned =>
    intro key node found
    rw [node?_without] at found
    split at found
    next => cases found
    next => exact all key node found

theorem shaped_lasting : Lasting fun id n => n.Shaped id where
  added _ admitted _ := (Node.shaped_ofClass ..).withAttributes admitted.attributes
  written v shaped isVariable := shaped.setValue isVariable v

theorem titled_lasting : Lasting fun id n => n.Titled id where
  added _ admitted given := Node.titled_withAttributes given admitted.named
  written _ titled _ := ⟨titled.id_ne, titled.browseName, titled.displayName⟩

theorem standard_every (holds : ∀ entry ∈ standardNodes,
    P entry.1 (.ofClass entry.1 entry.2.1 ⟨entry.1.namespaceIndex, entry.2.2⟩)) :
    standard.Every P := by
  intro id node found
  have member : (id, node) ∈ standardNodes.map standardEntry := NodeTable.mem_of_find? found
  obtain ⟨entry, listed, same⟩ := List.mem_map.mp member
  cases same
  exact holds entry listed

theorem Reached.shaped {inserting : Prop} (reached : Reached inserting s) :
    s.Every fun id n => n.Shaped id := by
  induction reached with
  | empty =>
    intro id node found
    cases found
  | standard => exact standard_every fun entry _ => Node.shaped_ofClass ..
  | served _ now service item ih => exact (perform_outcome now service item _).every shaped_lasting ih
  | inserted _ _ parent id name value now ih =>
    exact ih.putNode ((Node.shaped_ofClass id .variable _).setValue rfl _)

theorem Reached.titled (reached : Reached False s) : s.Every fun id n => n.Titled id := by
  induction reached with
  | empty =>
    intro id node found
    cases found
  | standard =>
    have names : ∀ entry ∈ standardNodes, entry.1 ≠ .null ∧ entry.2.2 ≠ "" := by decide
    apply standard_every
    intro entry listed
    obtain ⟨given, named⟩ := names entry listed
    exact ⟨given, named, named⟩
  | served _ now service item ih => exact (perform_outcome now service item _).every titled_lasting ih
  | inserted allowed => exact allowed.elim

/-! ### Reading -/

/-- What reading comes to: the node is unknown, has no such attribute, or answers. -/
theorem read_cases (shaped : s.Every fun id n => n.Shaped id) (now : Timestamp) (item : ReadItem) :
    (s.node? item.node = none ∧ (s.read now item).status = .badNodeIdUnknown) ∨
      ∃ node, s.node? item.node = some node ∧
        ((node.nodeClass.Has item.attributeId ∧ (s.read now item).status = .good) ∨
          (¬ node.nodeClass.Has item.attributeId ∧
            (s.read now item).status = .badAttributeIdInvalid)) := by
  unfold read
  cases found : s.node? item.node with
  | none => exact .inl ⟨rfl, rfl⟩
  | some node =>
    refine .inr ⟨node, rfl, ?_⟩
    rcases (shaped _ _ found).attribute? item.attributeId with ⟨has, v, held⟩ | ⟨hasNot, absent⟩
    · exact .inl ⟨has, by simp only [held]⟩
    · exact .inr ⟨hasNot, by simp only [absent]; rfl⟩

/-- In every address space that can be reached, a node is kept under its own identifier, and reading
an attribute of it answers exactly if its class has the attribute. -/
theorem nodes_have_attributes_of_their_class {inserting : Prop} {s : AddressSpace}
    (reached : Reached inserting s) :
    (∀ id node, s.node? id = some node → node.Shaped id) ∧
      (∀ now item,
        ((s.read now item).status = .badNodeIdUnknown ↔ s.node? item.node = none) ∧
          ((s.read now item).status = .good ↔
            ∃ node, s.node? item.node = some node ∧ node.nodeClass.Has item.attributeId) ∧
          ((s.read now item).status = .badAttributeIdInvalid ↔
            ∃ node, s.node? item.node = some node ∧ ¬ node.nodeClass.Has item.attributeId)) ∧
      (¬ inserting → ∀ id node, s.node? id = some node → node.Titled id) := by
  refine ⟨reached.shaped, fun now item => ?_, fun checked => ?_⟩
  · have good_ne_unknown : StatusCode.good ≠ .badNodeIdUnknown := by decide
    have good_ne_invalid : StatusCode.good ≠ .badAttributeIdInvalid := by decide
    have unknown_ne_invalid : StatusCode.badNodeIdUnknown ≠ .badAttributeIdInvalid := by decide
    rcases read_cases reached.shaped now item with
      ⟨absent, unknown⟩ | ⟨node, found, ⟨has, good⟩ | ⟨hasNot, invalid⟩⟩
    · simp [absent, unknown, unknown_ne_invalid, good_ne_unknown.symm]
    · simp [found, good, has, good_ne_unknown, good_ne_invalid]
    · simp [found, invalid, hasNot, good_ne_invalid.symm, unknown_ne_invalid.symm]
  · obtain rfl : inserting = False := eq_false checked
    exact reached.titled

/-- A view that is added, and then a variable without name and identifier that is put in. -/
theorem view_and_nameless_variable_read :
    let view : AddNodeItem := .ofKind .view .viewsFolder (.numeric 1 1) "A"
    let s := (perform .epoch .addNodes view standard).2
    let t := s.insertVariable .null .null "" .empty .epoch
    Reached False s ∧ Reached True t ∧
      (t.read .epoch ⟨.null, .accessLevel⟩).status = .good ∧
      (t.read .epoch ⟨.numeric 1 1, .eventNotifier⟩).status = .good ∧
      (t.read .epoch ⟨.numeric 1 1, .value⟩).status = .badAttributeIdInvalid ∧
      (t.read .epoch ⟨.numeric 1 2, .value⟩).status = .badNodeIdUnknown ∧
      ∃ node, s.node? (.numeric 1 1) = some node ∧ node.Titled (.numeric 1 1) := by
  intro view s t
  have served : ∀ inserting, Reached inserting s := fun inserting =>
    .served .standard .epoch .addNodes view
  have inserted : Reached True t := .inserted trivial (served True) .null .null "" .empty .epoch
  have answers := (nodes_have_attributes_of_their_class inserted).2.1 .epoch
  have added : (s.node? (.numeric 1 1)).isSome := by decide
  obtain ⟨node, found⟩ := Option.isSome_iff_exists.mp added
  refine ⟨served False, inserted, ?_, ?_, ?_, ?_, node, found, ?_⟩
  · exact (answers ⟨.null, .accessLevel⟩).2.1.mpr ⟨_, rfl, rfl⟩
  · exact (answers ⟨.numeric 1 1, .eventNotifier⟩).2.1.mpr ⟨_, rfl, .inr rfl⟩
  · exact (answers ⟨.numeric 1 1, .value⟩).2.2.mpr ⟨_, rfl, by decide⟩
  · exact (answers ⟨.numeric 1 2, .value⟩).1.mpr rfl
  · exact (nodes_have_attributes_of_their_class (served False)).2.2 id _ node found

end AddressSpace

end OpcUa
