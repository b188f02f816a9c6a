import OpcUa.Proofs.AddressSpace.Refusals
import OpcUa.Proofs.AddressSpace.Subtypes
import OpcUa.Proofs.AddressSpace.Teardown

/-!
Additions that do not depend on each other. A node that is accepted on its own is still accepted
after others have been added under other identifiers, since what it refers to stays as it is; so
such nodes can be added in any order, and all orders lead to the same nodes and references.
-/

namespace OpcUa

/-- The node that an item adds under the identifier that it asks for. -/
def AddNodeItem.node (item : AddNodeItem) (now : Timestamp) : Node :=
  (Node.ofClass item.requestedId item.nodeClass item.browseName).withAttributes item.attributes now

/-- The node without the time at which the server has taken its value. -/
def Node.untimed (n : Node) : Node :=
  { n with value := n.value.map fun v => { v with serverTimestamp := none } }

theorem AddNodeItem.untimed_node (item : AddNodeItem) (now now' : Timestamp) :
    (item.node now).untimed = (item.node now').untimed := by
  unfold node Node.untimed Node.withAttributes
  cases item.attributes.value <;> rfl

namespace AddressSpace

variable {now : Timestamp} {s t u : AddressSpace} {item other : AddNodeItem} {id key : NodeId}
  {additions order first second : List (Timestamp × AddNodeItem)} {items : List AddNodeItem}

/-! ### One addition -/

/-- A new node leaves the classes of the others as they are. -/
theorem class?_attach_of_some {c : NodeClass} (classed : s.class? key = some c)
    (unused : s.contains id = false) : (s.attach now other id).class? key = some c := by
  rw [class?_attach, if_neg (ne_of_unused (contains_of_class? classed) unused).symm, classed]

/-- What an item has to meet is still met after a node was added under another identifier. -/
theorem Admits.attach (admitted : s.Admits item) (unused : s.contains id = false)
    (apart : item.requestedId ≠ id) : (s.attach now other id).Admits item where
  parent := contains_attach.mpr (.inr admitted.parent)
  referenceType := by
    have classed := eq_of_beq admitted.referenceType
    exact beq_iff_eq.mpr (class?_attach_of_some classed unused)
  below := by
    have below := checkParent_ok.mp admitted.below
    apply checkParent_ok.mpr
    split
    next isType =>
      rw [if_pos isType] at below
      exact ⟨class?_attach_of_some below.1 unused, below.2⟩
    next other =>
      rw [if_neg other] at below
      exact below
  unused := by
    refine admitted.unused.imp_right fun absent => ?_
    rw [← Bool.not_eq_true, contains_attach, not_or]
    exact ⟨apart.symm, by simp [absent]⟩
  named := admitted.named
  typed := by
    obtain ⟨typed, untyped⟩ := typeDefinitionFits_iff.mp admitted.typed
    exact typeDefinitionFits_iff.mpr
      ⟨fun c asked => class?_attach_of_some (typed c asked) unused, untyped⟩
  attributes := admitted.attributes

/-! ### Many additions -/

/-- An address space, and what additions of nodes under the identifiers that they ask for have made
of it. -/
structure Gained (s t : AddressSpace) (additions : List (Timestamp × AddNodeItem)) : Prop where
  new : ∀ a ∈ additions, t.node? a.2.requestedId = some (a.2.node a.1)
  old : ∀ id, id ∉ additions.map (·.2.requestedId) → t.node? id = s.node? id
  nextId : t.nextId = s.nextId
  references : t.references =
    s.references ++ additions.flatMap fun a => a.2.references a.2.requestedId

theorem Gained.cons {a : Timestamp × AddNodeItem} (apart : a.2.requestedId ∉
      additions.map (·.2.requestedId))
    (gained : Gained (s.attach a.1 a.2 a.2.requestedId) t additions) :
    Gained s t (a :: additions) where
  new b member := by
    rcases List.mem_cons.mp member with rfl | later
    · rw [gained.old _ apart, node?_attach, if_pos rfl]
      rfl
    · exact gained.new b later
  old id absent := by
    obtain ⟨elsewhere, absent⟩ := not_or.mp (mt List.mem_cons.mpr absent)
    rw [gained.old id absent, node?_attach, if_neg (Ne.symm elsewhere)]
  nextId := gained.nextId.trans nextId_attach
  references := by
    rw [gained.references, references_attach, List.flatMap_cons, List.append_assoc]

/-- Nodes that are each accepted are accepted one after another. -/
theorem gained_of_admitted (given : ∀ a ∈ additions, a.2.requestedId ≠ .null)
    (distinct : (additions.map (·.2.requestedId)).Nodup)
    (admitted : ∀ a ∈ additions, s.Admits a.2) :
    (performEach (additions.map addition) s).1 =
        additions.map (fun a => addedAs a.2.requestedId) ∧
      Gained s (s.after (additions.map addition)) additions := by
  induction additions generalizing s with
  | nil => exact ⟨rfl, by simp, fun _ _ => rfl, rfl, by simp⟩
  | cons a rest ih =>
    obtain ⟨apart, distinct⟩ := List.nodup_cons.mp distinct
    have here := admitted a List.mem_cons_self
    have named := given a List.mem_cons_self
    have added : perform a.1 .addNodes a.2 s =
        (⟨.good, a.2.requestedId⟩, s.attach a.1 a.2 a.2.requestedId) :=
      addNode_of_assigned here (assignId_given named)
    have unused := here.unused.resolve_left named
    obtain ⟨results, gained⟩ :=
      ih (s := s.attach a.1 a.2 a.2.requestedId)
        (fun b later => given b (List.mem_cons_of_mem _ later)) distinct
        (fun b later => (admitted b (List.mem_cons_of_mem _ later)).attach unused
          fun same => apart (List.mem_map.mpr ⟨b, later, same⟩))
    rw [List.map_cons, List.map_cons, performEach_cons, after_cons]
    simp only [addition, added] at results gained ⊢
    exact ⟨by rw [← results]; rfl, gained.cons apart⟩

/-! ### Two orders -/

theorem requestedIds_perm (ordered : (order.map Prod.snd).Perm items) :
    (order.map (·.2.requestedId)).Perm (items.map AddNodeItem.requestedId) := by
  simpa [List.map_map, Function.comp_def] using ordered.map AddNodeItem.requestedId

/-- Nodes that are each accepted are accepted in every order. -/
theorem gained_of_ordered (given : ∀ item ∈ items, item.requestedId ≠ .null)
    (distinct : (items.map AddNodeItem.requestedId).Nodup)
    (admitted : ∀ item ∈ items, s.Admits item) (ordered : (order.map Prod.snd).Perm items) :
    (performEach (order.map addition) s).1 = order.map (fun a => addedAs a.2.requestedId) ∧
      Gained s (s.after (order.map addition)) order := by
  have among {a : Timestamp × AddNodeItem} (member : a ∈ order) : a.2 ∈ items :=
    ordered.mem_iff.mp (List.mem_map_of_mem member)
  exact gained_of_admitted (fun a member => given a.2 (among member))
    ((requestedIds_perm ordered).nodup_iff.mpr distinct)
    (fun a member => admitted a.2 (among member))

/-- After the same additions in two orders the nodes are the same, up to the times at which the
server has taken their values. -/
theorem Gained.untimed_node? (gained : Gained s t first) (gained' : Gained s u second)
    (ordered : (first.map Prod.snd).Perm items) (ordered' : (second.map Prod.snd).Perm items)
    (id : NodeId) : (t.node? id).map Node.untimed = (u.node? id).map Node.untimed := by
  have same := ordered.trans ordered'.symm
  have ids := (requestedIds_perm ordered).trans (requestedIds_perm ordered').symm
  by_cases added : id ∈ first.map (·.2.requestedId)
  · obtain ⟨⟨now, item⟩, member, rfl⟩ := List.mem_map.mp added
    obtain ⟨⟨now', _⟩, member', rfl⟩ :=
      List.mem_map.mp (same.mem_iff.mp (List.mem_map_of_mem member))
    have here := gained.new _ member
    have there := gained'.new _ member'
    simp only at here there ⊢
    rw [here, there, Option.map_some, Option.map_some, AddNodeItem.untimed_node]
  · rw [gained.old id added, gained'.old id fun later => added (ids.mem_iff.mpr later)]

/-- Nodes that are each accepted under an identifier of its own can be added in any order, which
gives the same nodes up to their times, and the same references in another order. -/
theorem independent_additions_commute (s : AddressSpace) (items : List AddNodeItem)
    (given : ∀ item ∈ items, item.requestedId ≠ .null)
    (distinct : (items.map AddNodeItem.requestedId).Nodup)
    (accepted : ∀ item ∈ items, ∃ now, (s.addNode now item).1.status = .good)
    (first second : List (Timestamp × AddNodeItem))
    (ordered : (first.map Prod.snd).Perm items) (ordered' : (second.map Prod.snd).Perm items) :
    let t := s.after (first.map addition)
    let u := s.after (second.map addition)
    ((performEach (first.map addition) s).1 = first.map (fun a => addedAs a.2.requestedId) ∧
        (∀ a ∈ first, t.node? a.2.requestedId = some (a.2.node a.1)) ∧
        (∀ id, id ∉ items.map AddNodeItem.requestedId → t.node? id = s.node? id) ∧
        t.nextId = s.nextId ∧ s.references <+: t.references) ∧
      (∀ id, (t.node? id).map Node.untimed = (u.node? id).map Node.untimed) ∧
        t.nextId = u.nextId ∧ t.references.Perm u.references := by
  intro t u
  have admitted : ∀ item ∈ items, s.Admits item := by
    intro item member
    obtain ⟨now, good⟩ := accepted item member
    exact admits_of_good good
  obtain ⟨results, gained⟩ := gained_of_ordered given distinct admitted ordered
  obtain ⟨-, gained'⟩ := gained_of_ordered given distinct admitted ordered'
  refine ⟨⟨results, gained.new, ?_, gained.nextId, ?_⟩, ?_, ?_, ?_⟩
  · intro id absent
    exact gained.old id fun member => absent ((requestedIds_perm ordered).mem_iff.mp member)
  · rw [gained.references]
    exact List.prefix_append ..
  · exact gained.untimed_node? gained' ordered ordered'
  · exact gained.nextId.trans gained'.nextId.symm
  · have same := (ordered.trans ordered'.symm).flatMap_right fun item =>
      item.references item.requestedId
    rw [List.flatMap_map, List.flatMap_map] at same
    rw [gained.references, gained'.references]
    exact same.append_left _

/-- A folder, a variable with a value and a type of objects, added in two orders at two times: the
value keeps the time of its addition, and the references of the folder come first or last. -/
theorem folder_variable_and_type_in_two_orders :
    let folder : AddNodeItem := .ofKind .folder .objectsFolder (.numeric 1 1) "F"
    let level : AddNodeItem :=
      (AddNodeItem.ofKind .variable .objectsFolder (.numeric 1 2) "v").withAttributes
        { value := some (.int32 7) }
    let device : AddNodeItem := .ofKind .objectType .baseObjectType (.numeric 2 1) "D"
    let early : Timestamp := .epoch
    let late : Timestamp := ⟨1, 0⟩
    let first := [(early, folder), (early, level), (early, device)]
    let second := [(late, device), (late, level), (late, folder)]
    let t := standard.after (first.map addition)
    let u := standard.after (second.map addition)
    let taken (s : AddressSpace) :=
      ((s.node? (.numeric 1 2)).bind Node.value).bind DataValue.serverTimestamp
    taken t = some early ∧ taken u = some late ∧ t.references ≠ u.references ∧
      (∀ id, (t.node? id).map Node.untimed = (u.node? id).map Node.untimed) ∧
      t.references.Perm u.references := by
  intro folder level device early late first second t u taken
  have general := independent_additions_commute standard [folder, level, device] (by decide)
    (by decide) (fun item member => ⟨early, by revert item; decide⟩) first second (.refl _)
    (List.reverse_perm [folder, level, device])
  exact ⟨by decide, by decide, by decide, general.2.1, general.2.2.2⟩

end AddressSpace

end OpcUa
