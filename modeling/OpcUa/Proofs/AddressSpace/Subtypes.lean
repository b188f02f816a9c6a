import OpcUa.Proofs.AddressSpace.Integrity

/-!
Which nodes are joined as subtypes. A new type hangs below a type of its own class, and nothing else
is added as a subtype. But references of that kind can be added between any two nodes, and one that
a deletion has left behind joins whatever is added at its end later. Apart from these two cases
subtypes join types of one class.
-/

namespace OpcUa.AddressSpace

variable {now : Timestamp} {s s' : AddressSpace} {service : Service} {item : service.Item}
  {result : service.Result} {events : List Event} {jobs : List Job} {job : Job} {r : Reference}
  {id key : NodeId}

/-! ### Classes -/

@[simp] theorem class?_attach {item : AddNodeItem} :
    (s.attach now item id).class? key = if id = key then some item.nodeClass else s.class? key := by
  unfold class?
  rw [node?_attach]
  split <;> rfl

@[simp] theorem class?_without {item : DeleteNodeItem} :
    (s.without item).class? key = if item.node = key then none else s.class? key := by
  unfold class?
  rw [node?_without]
  split <;> rfl

theorem class?_written {n : Node} {v : DataValue} (found : s.node? id = some n) :
    (s.putNode id { n with value := some v }).class? key = s.class? key := by
  unfold class?
  rw [node?_putNode]
  split
  next same => rw [← same, found]; rfl
  next => rfl

/-- A node that stays has the class that it had. -/
theorem Outcome.class?_eq (h : Outcome now s service item result s') (before : s.contains id)
    (after : s'.contains id) : s'.class? id = s.class? id := by
  cases h with
  | read | refused | linked | unlinked => rfl
  | written found => exact class?_written found
  | added admitted assigned =>
    have unused := assignId_unused admitted.unused assigned
    rw [class?_attach, if_neg (ne_of_unused before unused).symm]
    rfl
  | deleted | abandoned => rw [class?_without, if_neg (contains_without.mp after).1]

/-! ### One item -/

theorem hasTypeDefinition_ne_hasSubtype : NodeId.hasTypeDefinition ≠ .hasSubtype := by decide

/-- Both ends of a reference are types of the same class. -/
def JoinsTypes (s : AddressSpace) (r : Reference) : Prop :=
  ∃ c : NodeClass, c.isType ∧ s.class? r.source = some c ∧ s.class? r.target = some c

instance : Decidable (s.JoinsTypes r) :=
  decidable_of_iff ((s.class? r.source).any NodeClass.isType ∧ s.class? r.target = s.class? r.source)
    (by cases above : s.class? r.source <;> simp [JoinsTypes, above])

/-- A reference is stored by which a node that is there is the subtype of another, and the two are
not types of the same class. -/
structure Misjoins (s : AddressSpace) (r : Reference) : Prop where
  stored : r ∈ s.references
  subtype : r.referenceType = .hasSubtype
  source : s.contains r.source
  target : s.contains r.target
  unlike : ¬ s.JoinsTypes r

/-- The item makes a reference join nodes that are not types of the same class: it adds the
reference between them, or it adds a node to which the reference points already. -/
def Misjoining (s : AddressSpace) (r : Reference) : Event → Prop
  | (⟨_, .addReferences, item⟩, ⟨.addReferences, status⟩) =>
    status = .good ∧ r = item.reference ∧ ¬ s.JoinsTypes r
  | (⟨_, .addNodes, item⟩, ⟨.addNodes, ⟨status, id⟩⟩) =>
    status = .good ∧ id = r.target ∧ r ∈ s.references ∧
      ¬ (item.nodeClass.isType ∧ s.class? r.source = some item.nodeClass)
  | _ => False

theorem not_misjoining_refused {status : StatusCode} (bad : status.isBad) :
    ¬ s.Misjoining r (⟨now, service, item⟩, ⟨service, refusal service status⟩) := by
  cases service with
  | addNodes | addReferences =>
    rintro ⟨rfl, -⟩
    exact absurd bad (by decide)
  | _ => exact id

/-- What is added as a subtype is a type of its parent's class. -/
theorem Admits.subtype {item : AddNodeItem} (h : s.Admits item)
    (subtype : item.referenceType = .hasSubtype) :
    item.nodeClass.isType ∧ s.class? item.parent = some item.nodeClass := by
  have below := checkParent_ok.mp h.below
  split at below
  next isType => exact ⟨isType, below.1⟩
  next => exact absurd subtype below

/-- A reference to a new node joins types of one class exactly if the node is a type of the class
that the other end has. -/
theorem joinsTypes_attach {item : AddNodeItem} {nextId : UInt32} (source : s.contains r.source)
    (unused : s.contains r.target = false) :
    ({ s with nextId := nextId }.attach now item r.target).JoinsTypes r ↔
      item.nodeClass.isType ∧ s.class? r.source = some item.nodeClass := by
  have elsewhere : r.target ≠ r.source := (ne_of_unused source unused).symm
  simp only [JoinsTypes, class?_attach, if_neg elsewhere, if_true, Option.some.injEq]
  constructor
  · rintro ⟨c, isType, above, rfl⟩
    exact ⟨isType, above⟩
  · rintro ⟨isType, above⟩
    exact ⟨item.nodeClass, isType, above, rfl⟩

/-- The references that come with a new node join types of one class where they are for subtypes. -/
theorem Admits.joinsTypes {item : AddNodeItem} {nextId : UInt32} (h : s.Admits item)
    (unused : s.contains id = false) (new : r ∈ item.references id)
    (subtype : r.referenceType = .hasSubtype) :
    ({ s with nextId := nextId }.attach now item id).JoinsTypes r := by
  rcases AddNodeItem.mem_references.mp new with rfl | ⟨-, rfl⟩
  · exact (joinsTypes_attach h.parent unused).mpr (h.subtype subtype)
  · exact absurd subtype hasTypeDefinition_ne_hasSubtype

theorem Outcome.joinsTypes_iff (h : Outcome now s service item result s')
    (source : s.contains r.source) (target : s.contains r.target) (source' : s'.contains r.source)
    (target' : s'.contains r.target) : s'.JoinsTypes r ↔ s.JoinsTypes r := by
  unfold JoinsTypes
  rw [h.class?_eq source source', h.class?_eq target target']

/-- A reference that was stored before and led to a node is not touched. -/
theorem Outcome.not_misjoining (h : Outcome now s service item result s')
    (old : r ∈ s.references ∧ s.contains r.target) :
    ¬ s.Misjoining r (⟨now, service, item⟩, ⟨service, result⟩) := by
  cases h with
  | refused _ _ status bad => exact not_misjoining_refused bad
  | linked source referenceType target classFits isNew =>
    rintro ⟨-, rfl, -⟩
    exact isNew old.1
  | added admitted assigned =>
    rintro ⟨-, rfl, -⟩
    exact ne_of_unused old.2 (assignId_unused admitted.unused assigned) rfl
  | _ => exact id

/-- A reference that was stored before and led to a node joins what it joined. -/
theorem Outcome.misjoins_kept (rooted : s.Rooted) (h : Outcome now s service item result s')
    (stored : r ∈ s.references) (target : s.contains r.target) :
    s'.Misjoins r ↔ (r ∈ s'.references ∧ s'.contains r.target) ∧ s.Misjoins r := by
  constructor
  · intro bad
    have same := h.joinsTypes_iff (rooted r stored) target bad.source bad.target
    exact ⟨⟨bad.stored, bad.target⟩, stored, bad.subtype, rooted r stored, target,
      fun joins => bad.unlike (same.mpr joins)⟩
  · rintro ⟨⟨stored', target'⟩, bad⟩
    have source' := h.rooted rooted r stored'
    have same := h.joinsTypes_iff bad.source target source' target'
    exact ⟨stored', bad.subtype, source', target', fun joins => bad.unlike (same.mp joins)⟩

/-- A reference that leads to a node from now on joins the wrong nodes exactly if the item has made
it so. -/
theorem Outcome.misjoins_new (rooted : s.Rooted) (h : Outcome now s service item result s')
    (subtype : r.referenceType = .hasSubtype)
    (new : ¬ (r ∈ s.references ∧ s.contains r.target)) :
    s'.Misjoins r ↔ (r ∈ s'.references ∧ s'.contains r.target) ∧
      s.Misjoining r (⟨now, service, item⟩, ⟨service, result⟩) := by
  have source' : r ∈ s'.references → s'.contains r.source := h.rooted rooted r
  have still : (r ∈ s'.references → r ∈ s.references) →
      (s'.contains r.target → s.contains r.target) →
      ¬ s'.Misjoins r ∧ ¬ (r ∈ s'.references ∧ s'.contains r.target) := by
    intro references nodes
    have gone : ¬ (r ∈ s'.references ∧ s'.contains r.target) := fun ⟨stored, target⟩ =>
      new ⟨references stored, nodes target⟩
    exact ⟨fun bad => gone ⟨bad.stored, bad.target⟩, gone⟩
  cases h with
  | read | refused =>
    obtain ⟨joins, gone⟩ := still id id
    exact iff_of_false joins fun both => gone both.1
  | written found =>
    obtain ⟨joins, gone⟩ := still id fun target => by
      rcases contains_putNode.mp target with same | there
      · exact same ▸ contains_iff.mpr ⟨_, found⟩
      · exact there
    exact iff_of_false joins fun both => gone both.1
  | deleted | abandoned =>
    obtain ⟨joins, gone⟩ := still (fun stored => (List.mem_filter.mp stored).1)
      fun target => (contains_without.mp target).2
    exact iff_of_false joins fun both => gone both.1
  | unlinked =>
    obtain ⟨joins, gone⟩ := still (fun stored => (List.mem_filter.mp stored).1) id
    exact iff_of_false joins fun both => gone both.1
  | linked =>
    constructor
    · intro bad
      rcases List.mem_append.mp bad.stored with old | added
      · exact absurd ⟨old, bad.target⟩ new
      · exact ⟨⟨bad.stored, bad.target⟩, rfl, List.mem_singleton.mp added, bad.unlike⟩
    · rintro ⟨⟨stored', target'⟩, -, -, unlike⟩
      exact ⟨stored', subtype, source' stored', target', unlike⟩
  | @added item id nextId admitted assigned =>
    have unused := assignId_unused admitted.unused assigned
    constructor
    · intro bad
      have stored := bad.stored
      rw [references_attach, List.mem_append] at stored
      rcases stored with old | added
      · have here : id = r.target :=
          (contains_attach.mp bad.target).resolve_right fun there => new ⟨old, there⟩
        subst here
        refine ⟨⟨bad.stored, bad.target⟩, rfl, rfl, old, fun joins => bad.unlike ?_⟩
        exact (joinsTypes_attach (rooted r old) unused).mpr joins
      · exact absurd (admitted.joinsTypes unused added subtype) bad.unlike
    · rintro ⟨⟨stored', target'⟩, -, rfl, old, unlike⟩
      refine ⟨stored', subtype, source' stored', target', fun joins => unlike ?_⟩
      exact (joinsTypes_attach (rooted r old) unused).mp joins

/-- A reference joins the wrong nodes if the item has made it so, or if it did before, as long as it
is stored and leads to a node. -/
theorem Outcome.misjoins_iff (rooted : s.Rooted) (h : Outcome now s service item result s')
    (subtype : r.referenceType = .hasSubtype) :
    s'.Misjoins r ↔ (r ∈ s'.references ∧ s'.contains r.target) ∧
      (s.Misjoining r (⟨now, service, item⟩, ⟨service, result⟩) ∨ s.Misjoins r) := by
  by_cases old : r ∈ s.references ∧ s.contains r.target
  · rw [h.misjoins_kept rooted old.1 old.2, or_iff_right (h.not_misjoining old)]
  · rw [h.misjoins_new rooted subtype old, or_iff_left]
    exact fun bad => old ⟨bad.stored, bad.target⟩

/-! ### Runs -/

/-- A reference was made to join nodes that are not types of the same class, and has been stored and
has led to a node since. -/
def JoinedAmiss (jobs : List Job) (r : Reference) : Prop :=
  Since (fun before job => (standard.after before).Misjoining r ((standard.after before).answered job))
    (fun jobs => r ∈ (standard.after jobs).references ∧ (standard.after jobs).contains r.target) jobs

theorem after_misjoins_iff (jobs : List Job) (subtype : r.referenceType = .hasSubtype) :
    (standard.after jobs).Misjoins r ↔ JoinedAmiss jobs r := by
  induction jobs using List.reverseRecOn with
  | nil =>
    have fine : ∀ r ∈ standard.references, r.referenceType = .hasSubtype → standard.JoinsTypes r := by
      decide
    exact iff_of_false (fun bad => bad.unlike (fine r bad.stored subtype)) not_since_nil
  | append_singleton jobs job ih =>
    have step := (perform_outcome job.now job.service job.item (standard.after jobs)).misjoins_iff
      (after_rooted jobs) subtype
    rw [JoinedAmiss, since_snoc, after_snoc, step]
    exact and_congr_right fun _ => or_congr_right ih

/-- What joins the wrong nodes is a reference that was added between them, or one that a deletion
left behind. -/
theorem Outcome.misjoining_cause (explained : Explained events s)
    (h : Outcome now s service item result s')
    (amiss : s.Misjoining r (⟨now, service, item⟩, ⟨service, result⟩)) :
    service = .addReferences ∨ LeftBehind events r.target := by
  cases h with
  | linked => exact .inl rfl
  | added admitted assigned =>
    obtain ⟨-, rfl, stored, -⟩ := amiss
    refine .inr (explained r stored ?_)
    rw [assignId_unused admitted.unused assigned]
    exact Bool.false_ne_true
  | refused _ _ status bad => exact absurd amiss (not_misjoining_refused bad)
  | _ => exact amiss.elim

theorem misjoining_cause (amiss : (standard.after jobs).Misjoining r
    ((standard.after jobs).answered job)) :
    job.service = .addReferences ∨ LeftBehind (standard.transcript jobs) r.target :=
  (perform_outcome job.now job.service job.item _).misjoining_cause (after_explained jobs) amiss

/-- Nothing is joined amiss if no reference is added for subtypes and all deletions take the
references along. -/
theorem not_joinedAmiss (subtype : r.referenceType = .hasSubtype)
    (unlinked : ∀ now item, ⟨now, .addReferences, item⟩ ∈ jobs → item.referenceType ≠ .hasSubtype)
    (flagged : ∀ now item, ⟨now, .deleteNodes, item⟩ ∈ jobs → item.deleteTargetReferences) :
    ¬ JoinedAmiss jobs r := by
  rintro ⟨before, ⟨now, service, item⟩, later, rfl, amiss, -⟩
  rcases misjoining_cause amiss with rfl | left
  · obtain ⟨-, rfl, -⟩ := amiss
    apply unlinked now item (by simp)
    rw [← subtype, item.reference_referenceType]
  · exact not_leftBehind (fun now item deletion => flagged now item (List.mem_append_left _ deletion))
      left

theorem subtypes_join_types
    (unlinked : ∀ now item, ⟨now, .addReferences, item⟩ ∈ jobs → item.referenceType ≠ .hasSubtype)
    (flagged : ∀ now item, ⟨now, .deleteNodes, item⟩ ∈ jobs → item.deleteTargetReferences) :
    ∀ r ∈ (standard.after jobs).references, r.referenceType = .hasSubtype →
      (standard.after jobs).JoinsTypes r := by
  intro r stored subtype
  by_contra unlike
  apply not_joinedAmiss subtype unlinked flagged
  apply (after_misjoins_iff jobs subtype).mp
  exact ⟨stored, subtype, after_rooted jobs r stored, targets_present flagged r stored, unlike⟩

/-- After every run of services a reference for a subtype joins types of one class exactly if no
item has joined it amiss: one that adds the reference itself, or a node to which it was left behind.
-/
theorem subtypes_join_types_unless_joined_amiss (jobs : List Job) :
    let s := standard.after jobs
    ((∀ r ∈ s.references, r.referenceType = .hasSubtype →
        s.contains r.source → s.contains r.target → s.JoinsTypes r) ↔
      ∀ r, r.referenceType = .hasSubtype → ¬ JoinedAmiss jobs r) ∧
      (∀ r, s.Misjoins r ↔ r.referenceType = .hasSubtype ∧ JoinedAmiss jobs r) ∧
      (∀ job r, s.Misjoining r (s.answered job) →
        job.service = .addReferences ∨ LeftBehind (standard.transcript jobs) r.target) ∧
      ((∀ now item, ⟨now, .addReferences, item⟩ ∈ jobs → item.referenceType ≠ .hasSubtype) →
        (∀ now item, ⟨now, .deleteNodes, item⟩ ∈ jobs → item.deleteTargetReferences) →
        ∀ r ∈ s.references, r.referenceType = .hasSubtype → s.JoinsTypes r) := by
  refine ⟨⟨fun fine r subtype amiss => ?_, fun none r stored subtype source target => ?_⟩,
    fun r => ⟨fun bad => ?_, fun ⟨subtype, amiss⟩ => (after_misjoins_iff jobs subtype).mpr amiss⟩,
    fun _ _ => misjoining_cause, subtypes_join_types⟩
  · have bad := (after_misjoins_iff jobs subtype).mpr amiss
    exact bad.unlike (fine r bad.stored subtype bad.source bad.target)
  · by_contra unlike
    apply none r subtype
    exact (after_misjoins_iff jobs subtype).mp ⟨stored, subtype, source, target, unlike⟩
  · exact ⟨bad.subtype, (after_misjoins_iff jobs bad.subtype).mp bad⟩

/-- A folder that is made a subtype of another by adding the reference, and a folder that is added
where a deleted type has left the reference to it behind. -/
theorem folders_joined_amiss :
    let id : NodeId := .numeric 1 1
    let link : Job := ⟨.epoch, .addReferences, .between .objectsFolder .viewsFolder .hasSubtype true⟩
    let addition : Job := ⟨.epoch, .addNodes, .ofKind .objectType .baseObjectType id "A"⟩
    let deletion : Job := ⟨.epoch, .deleteNodes, ⟨id, false⟩⟩
    let folder : Job := ⟨.epoch, .addNodes, .ofKind .folder .objectsFolder id "A"⟩
    JoinedAmiss [link] ⟨.objectsFolder, .hasSubtype, .viewsFolder⟩ ∧
      JoinedAmiss [addition, deletion, folder] ⟨.baseObjectType, .hasSubtype, id⟩ ∧
      LeftBehind (standard.transcript [addition, deletion]) id ∧
      ∀ r ∈ (standard.after [addition]).references, r.referenceType = .hasSubtype →
        (standard.after [addition]).JoinsTypes r := by
  intro id link addition deletion folder
  have added := (subtypes_join_types_unless_joined_amiss [link]).2.1
    ⟨.objectsFolder, .hasSubtype, .viewsFolder⟩
  have returned := (subtypes_join_types_unless_joined_amiss [addition, deletion, folder]).2.1
    ⟨.baseObjectType, .hasSubtype, id⟩
  have cause := (subtypes_join_types_unless_joined_amiss [addition, deletion]).2.2.1 folder
    ⟨.baseObjectType, .hasSubtype, id⟩ ⟨rfl, rfl, by decide, by decide⟩
  refine ⟨(added.mp ?_).2, (returned.mp ?_).2, cause.resolve_left (by decide), ?_⟩
  · exact ⟨by decide, rfl, by decide, by decide, by decide⟩
  · exact ⟨by decide, rfl, by decide, by decide, by decide⟩
  · apply (subtypes_join_types_unless_joined_amiss [addition]).2.2.2
    · simp [addition]
    · simp [addition]

end OpcUa.AddressSpace
