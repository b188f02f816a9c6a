import Mathlib.Order.WellFounded
import OpcUa.Proofs.AddressSpace.Subtypes

/-!
The hierarchy of types. Where references come with new nodes only, and all deletions take the
references along, a node has one supertype at most, and the way up from it ends, since a new node
is the supertype of nothing. All nodes on the way have one class.
-/

namespace OpcUa.AddressSpace

open Relation

variable {now : Timestamp} {s s' : AddressSpace} {service : Service} {item : service.Item}
  {result : service.Result} {jobs : List Job} {r : Reference} {id above below : NodeId}

/-! ### The way up -/

/-- The references by which a node is a subtype. -/
def subtypeReferencesTo (s : AddressSpace) (id : NodeId) : List Reference :=
  s.references.filter fun r => r.referenceType == .hasSubtype && r.target == id

/-- A node is directly above another one. -/
def Supertype (s : AddressSpace) (above below : NodeId) : Prop :=
  ⟨above, .hasSubtype, below⟩ ∈ s.references

def supertype? (s : AddressSpace) (id : NodeId) : Option NodeId :=
  (s.subtypeReferencesTo id).head?.map Reference.source

/-- Where so many steps up lead to; none if there is no way further up before. -/
def climb (s : AddressSpace) : Nat → NodeId → Option NodeId
  | 0, id => some id
  | steps + 1, id => (s.supertype? id).bind (s.climb steps)

/-- Every node has one supertype at most, and no way up goes on forever. -/
structure Forest (s : AddressSpace) : Prop where
  single : ∀ id, (s.subtypeReferencesTo id).length ≤ 1
  founded : WellFounded s.Supertype

theorem mem_subtypeReferencesTo :
    r ∈ s.subtypeReferencesTo id ↔
      r ∈ s.references ∧ r.referenceType = .hasSubtype ∧ r.target = id := by
  simp [subtypeReferencesTo]

theorem Forest.supertype?_eq_some (forest : s.Forest) :
    s.supertype? below = some above ↔ s.Supertype above below := by
  unfold supertype? Supertype
  have single := forest.single below
  constructor
  · intro found
    obtain ⟨r, first, rfl⟩ := Option.map_eq_some_iff.mp found
    obtain ⟨stored, subtype, rfl⟩ := mem_subtypeReferencesTo.mp (List.mem_of_head? first)
    rw [← subtype]
    exact stored
  · intro stored
    have member := mem_subtypeReferencesTo.mpr ⟨stored, rfl, rfl⟩
    cases listed : s.subtypeReferencesTo below with
    | nil =>
      rw [listed] at member
      cases member
    | cons r rest =>
      rw [listed] at single member
      obtain rfl : rest = [] := List.length_eq_zero_iff.mp (by simpa using single)
      rw [← List.mem_singleton.mp member]
      rfl

/-! ### What keeps the hierarchy a forest -/

theorem Forest.of_sublist (forest : s.Forest) (fewer : s'.references.Sublist s.references) :
    s'.Forest where
  single id := Nat.le_trans (fewer.filter _).length_le (forest.single id)
  founded := Subrelation.wf (fun stored => fewer.subset stored) forest.founded

/-- A new node is a subtype of its parent, or of nothing. -/
theorem supertype_attach {item : AddNodeItem} :
    (s.attach now item id).Supertype above below ↔
      s.Supertype above below ∨
        item.referenceType = .hasSubtype ∧ above = item.parent ∧ below = id := by
  unfold Supertype
  rw [references_attach, List.mem_append, AddNodeItem.mem_references]
  simp only [Reference.mk.injEq, hasTypeDefinition_ne_hasSubtype.symm, false_and, and_false,
    or_false]
  exact or_congr_right ⟨fun ⟨parent, type, new⟩ => ⟨type.symm, parent, new⟩,
    fun ⟨type, parent, new⟩ => ⟨parent, type.symm, new⟩⟩

theorem founded_attach {item : AddNodeItem} (founded : WellFounded s.Supertype) (rooted : s.Rooted)
    (targets : ∀ r ∈ s.references, s.contains r.target) (unused : s.contains id = false)
    (parent : s.contains item.parent) : WellFounded (s.attach now item id).Supertype := by
  -- Nothing has changed above the old nodes, since the new one is above nothing.
  have old : ∀ key, key ≠ id → Acc (s.attach now item id).Supertype key := by
    intro key
    induction key using founded.induction with
    | _ key ih =>
      intro other
      constructor
      intro above up
      rcases supertype_attach.mp up with stored | ⟨-, -, new⟩
      · exact ih above stored (ne_of_unused (rooted _ stored) unused)
      · exact absurd new other
  constructor
  intro key
  by_cases new : key = id
  · subst new
    constructor
    intro above up
    rcases supertype_attach.mp up with stored | ⟨-, rfl, -⟩
    · exact absurd rfl (ne_of_unused (targets _ stored) unused)
    · exact old _ (ne_of_unused parent unused)
  · exact old key new

/-- Of the references that come with a new node one at most makes a node a subtype, and it is the
new node. -/
theorem new_subtypeReferencesTo {item : AddNodeItem} {key : NodeId} :
    ((item.references id).filter fun r => r.referenceType == .hasSubtype && r.target == key) =
      if item.referenceType = .hasSubtype ∧ id = key then [⟨item.parent, item.referenceType, id⟩]
      else [] := by
  unfold AddNodeItem.references
  by_cases untyped : item.typeDefinition.isNull <;>
    simp [List.filter_cons, untyped, hasTypeDefinition_ne_hasSubtype]

theorem Forest.attach {item : AddNodeItem} (forest : s.Forest) (rooted : s.Rooted)
    (targets : ∀ r ∈ s.references, s.contains r.target) (unused : s.contains id = false)
    (parent : s.contains item.parent) : (s.attach now item id).Forest := by
  refine ⟨fun key => ?_, founded_attach forest.founded rooted targets unused parent⟩
  have split : (s.attach now item id).subtypeReferencesTo key = s.subtypeReferencesTo key ++
      if item.referenceType = .hasSubtype ∧ id = key then [⟨item.parent, item.referenceType, id⟩]
      else [] := by
    rw [subtypeReferencesTo, references_attach, List.filter_append, new_subtypeReferencesTo]
    rfl
  rw [split]
  by_cases new : id = key
  · have none : s.subtypeReferencesTo key = [] := by
      apply List.eq_nil_iff_forall_not_mem.mpr
      intro r member
      obtain ⟨stored, -, rfl⟩ := mem_subtypeReferencesTo.mp member
      exact ne_of_unused (targets r stored) unused new.symm
    rw [none]
    split <;> simp
  · rw [if_neg fun both => new both.2, List.append_nil]
    exact forest.single key

theorem Outcome.forest (h : Outcome now s service item result s') (forest : s.Forest)
    (rooted : s.Rooted) (targets : ∀ r ∈ s.references, s.contains r.target)
    (unlinked : service ≠ .addReferences) : s'.Forest := by
  cases h with
  | read | refused => exact forest
  | written => exact forest.of_sublist (List.Sublist.refl _)
  | added admitted assigned =>
    have unused := assignId_unused admitted.unused assigned
    exact Forest.attach ⟨forest.single, forest.founded⟩ rooted targets unused admitted.parent
  | linked => exact absurd rfl unlinked
  | deleted | abandoned | unlinked => exact forest.of_sublist List.filter_sublist

/-- Among the standard nodes supertypes come first. -/
theorem standard_forest : standard.Forest := by
  have single : ∀ r ∈ standard.references,
      (standard.subtypeReferencesTo r.target).length ≤ 1 := by decide
  have order : ∀ r ∈ standard.references, r.referenceType = .hasSubtype →
      standard.table.keys.idxOf r.source < standard.table.keys.idxOf r.target := by decide
  constructor
  · intro id
    cases listed : standard.subtypeReferencesTo id with
    | nil => exact Nat.zero_le 1
    | cons r rest =>
      have member : r ∈ standard.subtypeReferencesTo id := listed ▸ List.mem_cons_self
      obtain ⟨stored, -, rfl⟩ := mem_subtypeReferencesTo.mp member
      rw [← listed]
      exact single r stored
  · have byPlace := (measure fun id => standard.table.keys.idxOf id).wf
    exact Subrelation.wf (fun stored => order _ stored rfl) byPlace

theorem after_forest (unlinked : ∀ job ∈ jobs, job.service ≠ .addReferences)
    (flagged : ∀ now item, ⟨now, .deleteNodes, item⟩ ∈ jobs → item.deleteTargetReferences) :
    (standard.after jobs).Forest := by
  induction jobs using List.reverseRecOn with
  | nil => exact standard_forest
  | append_singleton jobs job ih =>
    have unlinked' : ∀ job ∈ jobs, job.service ≠ .addReferences := fun job earlier =>
      unlinked job (List.mem_append_left _ earlier)
    have flagged' : ∀ now item, ⟨now, .deleteNodes, item⟩ ∈ jobs → item.deleteTargetReferences :=
      fun now item earlier => flagged now item (List.mem_append_left _ earlier)
    rw [after_snoc]
    apply (perform_outcome job.now job.service job.item _).forest (ih unlinked' flagged')
      (after_rooted jobs) (targets_present flagged')
    exact unlinked job (by simp)

/-! ### Walks -/

theorem Forest.acyclic (forest : s.Forest) (id : NodeId) : ¬ TransGen s.Supertype id id :=
  forest.founded.transGen.irrefl.irrefl id

/-- The nodes on the way up from a node are different from each other, so there are no more steps
than nodes. -/
theorem Forest.climb_ends (forest : s.Forest) (rooted : s.Rooted) (start : s.contains id) :
    ∃ steps ≤ s.nodeCount, s.climb steps id = none := by
  have path : ∃ path : List NodeId, s.climb path.length id = none ∧ path.Nodup ∧
      ∀ key ∈ path, s.contains key ∧ ReflTransGen s.Supertype key id := by
    induction id using forest.founded.induction with
    | _ id ih =>
      cases up : s.supertype? id with
      | none =>
        refine ⟨[id], by simp [climb, up], List.nodup_singleton _, fun key member => ?_⟩
        obtain rfl := List.mem_singleton.mp member
        exact ⟨start, .refl⟩
      | some above =>
        have here := forest.supertype?_eq_some.mp up
        obtain ⟨path, ends, distinct, members⟩ := ih above here (rooted _ here)
        refine ⟨id :: path, by simpa [climb, up] using ends, ?_, fun key member => ?_⟩
        · refine List.nodup_cons.mpr ⟨fun again => ?_, distinct⟩
          have cycle : TransGen s.Supertype id id := .tail' (members id again).2 here
          exact forest.acyclic id cycle
        · rcases List.mem_cons.mp member with rfl | higher
          · exact ⟨start, .refl⟩
          · exact ⟨(members key higher).1, (members key higher).2.tail here⟩
  obtain ⟨path, ends, distinct, members⟩ := path
  refine ⟨path.length, ?_, ends⟩
  have bound := distinct.length_le_of_subset fun key member => mem_keys.mpr (members key member).1
  simpa [nodeCount, NodeTable.size, NodeTable.keys] using bound

theorem Forest.climb_class (forest : s.Forest) (rooted : s.Rooted)
    (joins : ∀ r ∈ s.references, r.referenceType = .hasSubtype → s.JoinsTypes r) {steps : Nat}
    (start : s.contains id) (way : s.climb steps id = some above) :
    s.contains above ∧ s.class? above = s.class? id := by
  induction steps generalizing id with
  | zero =>
    cases way
    exact ⟨start, rfl⟩
  | succ steps ih =>
    obtain ⟨next, up, further⟩ := Option.bind_eq_some_iff.mp way
    have here := forest.supertype?_eq_some.mp up
    obtain ⟨c, -, upper, lower⟩ := joins _ here rfl
    obtain ⟨there, same⟩ := ih (rooted _ here) further
    exact ⟨there, by rw [same, upper, lower]⟩

/-- Where no references are added on their own and deletions take the references along, every node
has at most one supertype, and the way up ends at a type of its class. -/
theorem subtypes_form_a_forest (jobs : List Job)
    (unlinked : ∀ job ∈ jobs, job.service ≠ .addReferences)
    (flagged : ∀ now item, ⟨now, .deleteNodes, item⟩ ∈ jobs → item.deleteTargetReferences) :
    let s := standard.after jobs
    (∀ id, (s.subtypeReferencesTo id).length ≤ 1) ∧
      (∀ id, ¬ TransGen s.Supertype id id) ∧
      (∀ above below, s.supertype? below = some above ↔ s.Supertype above below) ∧
      ∀ id, s.contains id →
        (∃ steps ≤ s.nodeCount, s.climb steps id = none) ∧
          ∀ steps above, s.climb steps id = some above →
            s.contains above ∧ s.class? above = s.class? id := by
  have forest := after_forest unlinked flagged
  have rooted := after_rooted jobs
  have joins := subtypes_join_types (fun _ _ member _ => unlinked _ member rfl) flagged
  refine ⟨forest.single, forest.acyclic, fun _ _ => forest.supertype?_eq_some, fun id start => ?_⟩
  exact ⟨forest.climb_ends rooted start, fun _ _ => forest.climb_class rooted joins start⟩

/-- Two types, one below the other, of which the upper one is deleted and added again below the
lower one; the reference type for subtypes is deleted in the end. -/
theorem upper_type_added_below_lower :
    let upper : NodeId := .numeric 1 1
    let lower : NodeId := .numeric 1 2
    let jobs : List Job := [
      ⟨.epoch, .addNodes, .ofKind .objectType .folderType upper "A"⟩,
      ⟨.epoch, .addNodes, .ofKind .objectType upper lower "B"⟩,
      ⟨.epoch, .deleteNodes, ⟨upper, true⟩⟩,
      ⟨.epoch, .addNodes, .ofKind .objectType lower upper "A"⟩,
      ⟨.epoch, .deleteNodes, ⟨.hasSubtype, true⟩⟩]
    let s := standard.after jobs
    (∀ job ∈ jobs, job.service ≠ .addReferences) ∧
      (∀ now item, ⟨now, .deleteNodes, item⟩ ∈ jobs → item.deleteTargetReferences) ∧
      s.Supertype lower upper ∧ s.supertype? upper = some lower ∧ s.climb 2 upper = none ∧
      s.class? lower = s.class? upper ∧ ¬ TransGen s.Supertype upper upper := by
  intro upper lower jobs s
  have unlinked : ∀ job ∈ jobs, job.service ≠ .addReferences := by simp [jobs]
  have flagged : ∀ now item, ⟨now, .deleteNodes, item⟩ ∈ jobs → item.deleteTargetReferences := by
    rintro now item member
    simp [jobs] at member
    rcases member with ⟨-, rfl⟩ | ⟨-, rfl⟩ <;> rfl
  obtain ⟨-, acyclic, supertypes, walks⟩ := subtypes_form_a_forest jobs unlinked flagged
  have stored : s.Supertype lower upper := by
    unfold Supertype
    decide
  have up := (supertypes lower upper).mpr stored
  have same := ((walks upper (by decide)).2 1 lower (by simp [climb, up])).2
  exact ⟨unlinked, flagged, stored, up, by decide, same, acyclic upper⟩

end OpcUa.AddressSpace
