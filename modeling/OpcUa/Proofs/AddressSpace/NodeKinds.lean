import OpcUa.Proofs.AddressSpace.NodeShapes

/-!
Kinds of new nodes. What a kind stands for (the class of the node, its type, and the reference from
its parent) meets every check, so only what is chosen beside the kind can be refused: the parent, the
identifier, the name and the attributes.
-/

namespace OpcUa

namespace NodeKind

/-- The kinds of types are those that hang below their parents as subtypes. -/
theorem isType_iff (kind : NodeKind) :
    kind.nodeClass.isType ↔ kind.parentReference = .hasSubtype := by
  cases kind <;> decide

theorem class?_parentReference (kind : NodeKind) :
    AddressSpace.standard.class? kind.parentReference = some .referenceType := by
  cases kind <;> rfl

/-- Where a type is asked of the nodes of a kind, the kind names one of that class. -/
theorem typeClass?_eq_some {kind : NodeKind} {c : NodeClass}
    (asked : AddressSpace.typeClass? kind.nodeClass = some c) :
    kind.typeDefinition ≠ .null ∧
      AddressSpace.standard.class? kind.typeDefinition = some c := by
  cases kind <;> cases asked <;> decide

theorem typeClass?_eq_none {kind : NodeKind}
    (asked : AddressSpace.typeClass? kind.nodeClass = none) : kind.typeDefinition = .null := by
  cases kind <;> first | rfl | cases asked

end NodeKind

namespace Node

variable {id : NodeId} {c : NodeClass} {name : QualifiedName} {a : NodeAttributes}
  {now : Timestamp}

/-- A node that is as it was asked for: it has the class and the name, the attributes that were
given, and for the others what nodes of its class begin with. -/
structure BuiltAs (n : Node) (id : NodeId) (c : NodeClass) (name : QualifiedName)
    (a : NodeAttributes) (now : Timestamp) : Prop where
  id_eq : n.id = id
  nodeClass : n.nodeClass = c
  browseName : n.browseName = name
  displayName : n.displayName =
    if a.displayName.text = "" then .plain name.name else a.displayName
  description : n.description = a.description
  value : n.value =
    if c.Has .value then some (a.value.elim {} fun v => (DataValue.ofVariant v).stamped now)
    else none
  dataType : n.dataType = if c.Has .dataType then some (a.dataType.getD .baseDataType) else none
  valueRank : n.valueRank = if c.Has .valueRank then some (a.valueRank.getD (-1)) else none
  eventNotifier : n.eventNotifier =
    if c.Has .eventNotifier then some (a.eventNotifier.getD 0) else none

/-- Where an attribute is given only if it belongs there, it is held exactly if it belongs there: as
it was given, or else as it is by default. -/
theorem or_default {α : Type} {given : Option α} {default : α} {belongs : Bool} {P : Prop}
    [Decidable P] (belongs_iff : belongs ↔ P) (fits : given.isSome → P) :
    given.or (if belongs then some default else none) =
      if P then some (given.getD default) else none := by
  simp only [belongs_iff]
  cases given with
  | none => rfl
  | some _ =>
    have held : P := fits rfl
    simp [held]

theorem builtAs_withAttributes (fits : AddressSpace.attributesFit c a) :
    ((ofClass id c name).withAttributes a now).BuiltAs id c name a now := by
  obtain ⟨ofVariables, ofNotifiers⟩ := attributesFit_iff.mp fits
  have hasValue : c.hasValue ↔ c = .variable ∨ c = .variableType := by
    cases c <;> decide
  have hasNotifier : c.hasEventNotifier ↔ c = .object ∨ c = .view := by
    cases c <;> decide
  constructor
  · rfl
  · rfl
  · rfl
  · simp [withAttributes, ofClass]
  · rfl
  · refine (or_default hasValue fun given => ofVariables (.inl (by simpa using given))).trans ?_
    cases a.value <;> rfl
  · exact or_default hasValue fun given => ofVariables (.inr (.inl given))
  · exact or_default hasValue fun given => ofVariables (.inr (.inr given))
  · exact or_default hasNotifier ofNotifiers

end Node

namespace AddressSpace

variable {now : Timestamp} {s : AddressSpace} {kind : NodeKind} {parent id : NodeId}
  {name : String} {a : NodeAttributes}

/-- The reference type and the type that a kind names are there, with the classes that they have
among the standard nodes. -/
structure Supports (s : AddressSpace) (kind : NodeKind) : Prop where
  parentReference : s.class? kind.parentReference = standard.class? kind.parentReference
  typeDefinition : kind.typeDefinition ≠ .null →
    s.class? kind.typeDefinition = standard.class? kind.typeDefinition

theorem checkParent_ofKind (alike : kind.nodeClass.isType → s.class? parent = some kind.nodeClass) :
    s.checkParent ((AddNodeItem.ofKind kind parent id name).withAttributes a) = .ok () := by
  apply checkParent_ok.mpr
  split
  next isType => exact ⟨alike isType, kind.isType_iff.mp isType⟩
  next other => exact mt kind.isType_iff.mpr other

theorem typeDefinitionFits_ofKind (supported : s.Supports kind) :
    s.typeDefinitionFits ((AddNodeItem.ofKind kind parent id name).withAttributes a) := by
  refine typeDefinitionFits_iff.mpr ⟨fun c asked => ?_, NodeKind.typeClass?_eq_none⟩
  obtain ⟨typed, classed⟩ := NodeKind.typeClass?_eq_some asked
  exact (supported.typeDefinition typed).trans classed

/-- The item for a new node of a kind meets all checks if what is chosen beside the kind does. -/
theorem admits_ofKind (supported : s.Supports kind) (present : s.contains parent)
    (alike : kind.nodeClass.isType → s.class? parent = some kind.nodeClass)
    (unused : id = .null ∨ s.contains id = false) (named : name ≠ "")
    (fits : attributesFit kind.nodeClass a) :
    s.Admits ((AddNodeItem.ofKind kind parent id name).withAttributes a) where
  parent := present
  referenceType := by
    have classed := supported.parentReference.trans kind.class?_parentReference
    exact beq_iff_eq.mpr classed
  below := checkParent_ofKind alike
  unused := unused
  named := by simpa [AddNodeItem.ofKind, AddNodeItem.named, AddNodeItem.withAttributes,
    QualifiedName.isNull] using named
  typed := typeDefinitionFits_ofKind supported
  attributes := fits

/-- A new node of any kind is added under any parent that suits it, as the item describes it, with
the defaults of its class and the references of its kind. -/
theorem nodes_of_every_kind_are_added (s : AddressSpace) (now : Timestamp) (kind : NodeKind)
    (parent id : NodeId) (name : String) (a : NodeAttributes) (supported : s.Supports kind)
    (present : s.contains parent)
    (alike : kind.nodeClass.isType → s.class? parent = some kind.nodeClass)
    (unused : id ≠ .null → s.contains id = false)
    (free : id = .null → ∃ n, s.contains (.numeric 1 n) = false) (named : name ≠ "")
    (ofVariables : a.value.isSome ∨ a.dataType.isSome ∨ a.valueRank.isSome →
      kind.nodeClass = .variable ∨ kind.nodeClass = .variableType)
    (ofNotifiers : a.eventNotifier.isSome →
      kind.nodeClass = .object ∨ kind.nodeClass = .view) :
    let item := (AddNodeItem.ofKind kind parent id name).withAttributes a
    ∃ added t, s.addNode now item = (⟨.good, added⟩, t) ∧
      (id ≠ .null → added = id) ∧
      (id = .null → s.contains added = false ∧ ∃ n, added = .numeric 1 n) ∧
      (∃ node, t.node? added = some node ∧
        node.BuiltAs added kind.nodeClass ⟨id.namespaceIndex, name⟩ a now) ∧
      (∀ other, other ≠ added → t.node? other = s.node? other) ∧
      t.references = s.references ++ ⟨parent, kind.parentReference, added⟩ ::
        if kind.typeDefinition = .null then []
        else [⟨added, .hasTypeDefinition, kind.typeDefinition⟩] := by
  intro item
  have fits := Node.attributesFit_iff.mpr ⟨ofVariables, ofNotifiers⟩
  have admitted : s.Admits item :=
    admits_ofKind supported present alike (Decidable.or_iff_not_imp_left.mpr unused) named fits
  have assigned : ∃ found, s.assignId id = .ok found := by
    by_cases null : id = .null
    · exact assignId_ends (free null) id
    · exact ⟨_, assignId_given null⟩
  obtain ⟨⟨added, nextId⟩, assigned⟩ := assigned
  refine ⟨added, _, addNode_of_assigned admitted assigned, ?_, ?_, ?_, ?_, ?_⟩
  · intro given
    rcases assignId_ok assigned with ⟨same, -⟩ | ⟨null, -⟩
    · exact same
    · exact absurd null given
  · intro null
    rcases assignId_ok assigned with ⟨-, given, -⟩ | ⟨-, unused, n, same, -⟩
    · exact absurd null given
    · exact ⟨unused, n, same⟩
  · exact ⟨_, node?_attach.trans (if_pos rfl), Node.builtAs_withAttributes fits⟩
  · intro other elsewhere
    rw [node?_attach, if_neg elsewhere.symm]
    rfl
  · rw [references_attach]
    simp only [AddNodeItem.references, isNull_iff]
    rfl

/-- A property without an identifier, with a value and a rank, and a type of data with one, above
which the types of data have been added before. -/
theorem property_and_type_of_data_added :
    let given : NodeAttributes := { value := some (.int32 7), valueRank := some 1 }
    let property := (AddNodeItem.ofKind .property .objectsFolder .null "p").withAttributes given
    let above : NodeId := .numeric 1 50001
    let s := (standard.addNode .epoch (.ofKind .dataType .baseDataType above "T")).2
    let below := (AddNodeItem.ofKind .dataType above (.numeric 2 1) "U").withAttributes {}
    (∃ node, (s.addNode .epoch property).2.node? (.numeric 1 50000) = some node ∧
      node.BuiltAs (.numeric 1 50000) .variable ⟨0, "p"⟩ given .epoch ∧
      node.dataType = some .baseDataType) ∧
      (s.addNode .epoch below).1 = ⟨.good, .numeric 2 1⟩ ∧
      (s.addNode .epoch below).2.references =
        s.references ++ [⟨above, .hasSubtype, .numeric 2 1⟩] := by
  intro given property above s below
  have supported (kind : NodeKind) : s.Supports kind := by
    cases kind <;> exact ⟨by decide, by decide⟩
  constructor
  · obtain ⟨added, t, result, -, -, ⟨node, found, built⟩, -⟩ :=
      nodes_of_every_kind_are_added s .epoch .property .objectsFolder .null "p" given
        (supported _) (by decide) (by decide) (fun given => absurd rfl given)
        (fun _ => ⟨0, by decide⟩) (by decide) (fun _ => .inl rfl) (by decide)
    have first : (s.addNode .epoch property).1 = ⟨.good, .numeric 1 50000⟩ := by decide
    have same : added = .numeric 1 50000 :=
      congrArg AddNodeResult.addedId ((congrArg Prod.fst result).symm.trans first)
    subst same
    have after : (s.addNode .epoch property).2 = t := congrArg Prod.snd result
    exact ⟨node, after ▸ found, built, built.dataType⟩
  · obtain ⟨added, t, result, same, -, -, -, stored⟩ :=
      nodes_of_every_kind_are_added s .epoch .dataType above (.numeric 2 1) "U" {}
        (supported _) (by decide) (by decide) (fun _ => by decide)
        (fun null => absurd null (by decide)) (by decide) (by decide) (by decide)
    obtain rfl := same (by decide)
    have after : (s.addNode .epoch below).2 = t := congrArg Prod.snd result
    exact ⟨congrArg Prod.fst result, after ▸ stored⟩

end AddressSpace

end OpcUa
