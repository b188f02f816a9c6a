import Mathlib.Data.List.Nodup
import OpcUa.Proofs.AddressSpace.Runs

/-!
Tearing a model down. Nodes that were added one after another can be deleted again in any order:
what their additions have brought goes with them, and nothing else does.
-/

namespace OpcUa.AddressSpace

variable {now : Timestamp} {s t : AddressSpace} {id : NodeId} {ids order : List NodeId}

/-- An address space with nodes added to it: they come after the others, under the given
identifiers, and every reference that has come with them begins or ends at one of them. -/
structure Grown (s t : AddressSpace) (ids : List NodeId) : Prop where
  nodes : ∃ new, t.table.entries = s.table.entries ++ new ∧ (new.map Prod.fst).Perm ids
  references : ∃ new, t.references = s.references ++ new ∧
    ∀ r ∈ new, r.source ∈ ids ∨ r.target ∈ ids

theorem table_attach {item : AddNodeItem} :
    (s.attach now item id).table = s.table.insert id
      ((Node.ofClass id item.nodeClass item.browseName).withAttributes item.attributes now) := by
  unfold AddressSpace.attach
  by_cases untyped : item.typeDefinition.isNull <;> simp [untyped, link, putNode]

namespace Grown

theorem refl (s : AddressSpace) : Grown s s [] where
  nodes := ⟨[], by simp, .refl _⟩
  references := ⟨[], by simp, by simp⟩

theorem perm (grown : Grown s t ids) (rearranged : order.Perm ids) : Grown s t order where
  nodes := by
    obtain ⟨new, entries, keys⟩ := grown.nodes
    exact ⟨new, entries, keys.trans rearranged.symm⟩
  references := by
    obtain ⟨new, references, ends⟩ := grown.references
    refine ⟨new, references, fun r member => ?_⟩
    rw [rearranged.mem_iff, rearranged.mem_iff]
    exact ends r member

/-- With nothing added the nodes and the references are the same. -/
theorem eq_of_nil (grown : Grown s t []) : t.table = s.table ∧ t.references = s.references := by
  obtain ⟨nodes, entries, keys⟩ := grown.nodes
  obtain ⟨new, references, ends⟩ := grown.references
  obtain rfl : nodes = [] := List.map_eq_nil_iff.mp (List.perm_nil.mp keys)
  have none : new = [] := List.eq_nil_iff_forall_not_mem.mpr fun r member => by
    simpa using ends r member
  rw [List.append_nil] at entries
  rw [none, List.append_nil] at references
  refine ⟨?_, references⟩
  cases same : t.table
  cases same' : s.table
  rw [same, same'] at entries
  cases entries
  rfl

/-- The added identifiers are different from each other and from those that were there. -/
theorem nodup (grown : Grown s t ids) : (s.table.keys ++ ids).Nodup := by
  obtain ⟨new, entries, keys⟩ := grown.nodes
  have distinct := t.table.nodup
  rw [entries, List.map_append] at distinct
  exact (keys.append_left _).nodup_iff.mp distinct

theorem present (grown : Grown s t ids) (member : id ∈ ids) : t.contains id := by
  obtain ⟨new, entries, keys⟩ := grown.nodes
  have listed : id ∈ new.map Prod.fst := keys.mem_iff.mpr member
  apply NodeTable.mem_keys.mp
  rw [NodeTable.keys, entries, List.map_append]
  exact List.mem_append_right _ listed

/-- A node under a new identifier grows the address space by that identifier. -/
theorem attach (grown : Grown s t ids) {item : AddNodeItem} (unused : t.contains id = false) :
    Grown s (t.attach now item id) (ids ++ [id]) where
  nodes := by
    obtain ⟨new, entries, keys⟩ := grown.nodes
    have absent : t.table.find? id = none := by
      simpa [AddressSpace.contains, NodeTable.contains] using unused
    refine ⟨_, by rw [table_attach, NodeTable.entries_insert absent, entries,
      List.append_assoc], ?_⟩
    rw [List.map_append]
    exact keys.append_right [id]
  references := by
    obtain ⟨new, references, ends⟩ := grown.references
    refine ⟨new ++ item.references id, by rw [references_attach, references, List.append_assoc], ?_⟩
    intro r member
    simp only [List.mem_append, List.mem_singleton]
    rcases List.mem_append.mp member with old | fresh
    · exact (ends r old).imp .inl .inl
    · rcases AddNodeItem.mem_references.mp fresh with rfl | ⟨-, rfl⟩
      · exact .inr (.inr rfl)
      · exact .inl (.inr rfl)

/-- Deleting an added node with the references to it takes back what it has brought. The references
that were there before stay, since they mention no added node. -/
theorem without (grown : Grown s t (id :: ids))
    (apart : ∀ r ∈ s.references, r.source ≠ id ∧ r.target ≠ id) :
    Grown s (t.without ⟨id, true⟩) ids where
  nodes := by
    obtain ⟨-, distinct, separate⟩ := List.nodup_append.mp grown.nodup
    obtain ⟨new, entries, keys⟩ := grown.nodes
    have old : s.table.entries.filter (·.1 != id) = s.table.entries := by
      apply List.filter_eq_self.mpr
      intro e member
      have other := separate e.1 (List.mem_map_of_mem member) id List.mem_cons_self
      simpa using other
    have rest : (id :: ids).filter (· != id) = ids := by
      rw [List.filter_cons_of_neg (by simp)]
      exact filter_bne_of_not_mem (List.nodup_cons.mp distinct).1
    refine ⟨new.filter (·.1 != id), ?_, ?_⟩
    · show t.table.entries.filter (·.1 != id) = _
      rw [entries, List.filter_append, old]
    · have remaining := keys.filter (· != id)
      rwa [rest, List.filter_map] at remaining
  references := by
    obtain ⟨new, references, ends⟩ := grown.references
    have old : s.references.filter (DeleteNodeItem.keeps ⟨id, true⟩) = s.references := by
      apply List.filter_eq_self.mpr
      intro r member
      exact DeleteNodeItem.keeps_iff.mpr ⟨(apart r member).1, fun _ => (apart r member).2⟩
    refine ⟨new.filter (DeleteNodeItem.keeps ⟨id, true⟩), ?_, ?_⟩
    · rw [references_without, references, List.filter_append, old]
    · intro r member
      obtain ⟨stored, kept⟩ := List.mem_filter.mp member
      obtain ⟨leaves, reaches⟩ := DeleteNodeItem.keeps_iff.mp kept
      have remain := ends r stored
      rw [List.mem_cons, List.mem_cons] at remain
      exact remain.imp (·.resolve_left leaves) (·.resolve_left (reaches rfl))

end Grown

/-! ### Runs -/

/-- The addition of a node, at some time. -/
def addition (a : Timestamp × AddNodeItem) : Job := ⟨a.1, .addNodes, a.2⟩

/-- The deletion of a node with the references to it. -/
def removal (now : Timestamp) (id : NodeId) : Job := ⟨now, .deleteNodes, ⟨id, true⟩⟩

/-- The result of the addition of a node under an identifier. -/
def addedAs (id : NodeId) : AnyResult := ⟨.addNodes, ⟨.good, id⟩⟩

theorem Outcome.grown {item : AddNodeItem} {t' : AddressSpace} (grown : Grown s t ids)
    (h : Outcome now t .addNodes item ⟨.good, id⟩ t') : Grown s t' (ids ++ [id]) := by
  cases h with
  | refused _ _ _ bad => exact absurd bad (by decide)
  | @added _ _ nextId admitted assigned =>
    have counted : Grown s { t with nextId := nextId } ids := ⟨grown.nodes, grown.references⟩
    have unused : t.contains id = false := assignId_unused admitted.unused assigned
    exact counted.attach unused

theorem grown_of_added {additions : List (Timestamp × AddNodeItem)}
    (added : (performEach (additions.map addition) s).1 = ids.map addedAs) :
    Grown s (s.after (additions.map addition)) ids := by
  induction additions using List.reverseRecOn generalizing ids with
  | nil =>
    obtain rfl : ids = [] := List.map_eq_nil_iff.mp added.symm
    exact .refl s
  | append_singleton before last ih =>
    rw [List.map_append, List.map_cons, List.map_nil] at added ⊢
    rw [performEach_snoc] at added
    rw [after_snoc]
    obtain ⟨first, final, rfl, earlier, here⟩ := List.map_eq_append_iff.mp added.symm
    obtain ⟨id, rfl, same⟩ := List.map_eq_singleton_iff.mp here
    have result : ((s.after (before.map addition)).addNode last.1 last.2).1 = ⟨.good, id⟩ :=
      (eq_of_heq (Sigma.mk.inj same).2).symm
    have outcome := addNode_outcome last.1 (s.after (before.map addition)) last.2
    rw [result] at outcome
    exact outcome.grown (ih earlier.symm)

theorem removed_of_grown (now : Timestamp) (grown : Grown s t ids)
    (apart : ∀ r ∈ s.references, r.source ∉ ids ∧ r.target ∉ ids) :
    (performEach (ids.map (removal now)) t).1 = ids.map (fun _ => ⟨.deleteNodes, StatusCode.good⟩) ∧
      Grown s (t.after (ids.map (removal now))) [] := by
  induction ids generalizing t with
  | nil => exact ⟨rfl, grown⟩
  | cons id ids ih =>
    have present := grown.present List.mem_cons_self
    have gone : ¬ t.StillReferred ⟨id, true⟩ := by simp [StillReferred]
    have deleted : perform now .deleteNodes ⟨id, true⟩ t = (.good, t.without ⟨id, true⟩) := by
      rw [perform, deleteNode_of_present present, if_neg gone]
    have remaining := grown.without fun r member =>
      ⟨fun same => (apart r member).1 (same ▸ List.mem_cons_self),
        fun same => (apart r member).2 (same ▸ List.mem_cons_self)⟩
    obtain ⟨results, left⟩ := ih remaining fun r member =>
      ⟨fun among => (apart r member).1 (List.mem_cons_of_mem _ among),
        fun among => (apart r member).2 (List.mem_cons_of_mem _ among)⟩
    rw [List.map_cons, List.map_cons, performEach_cons, after_cons]
    simp only [removal, deleted]
    exact ⟨by rw [results], left⟩

/-- Nodes that were added to any address space can be deleted again in any order, which gives back
the nodes and the references from before, in their order. -/
theorem deleting_added_nodes_restores (s : AddressSpace)
    (additions : List (Timestamp × AddNodeItem)) (ids order : List NodeId) (now : Timestamp)
    (added : (performEach (additions.map addition) s).1 = ids.map addedAs)
    (apart : ∀ r ∈ s.references, r.source ∉ ids ∧ r.target ∉ ids)
    (rearranged : order.Perm ids) :
    let grown := s.after (additions.map addition)
    let restored := grown.after (order.map (removal now))
    (performEach (order.map (removal now)) grown).1 =
        order.map (fun _ => ⟨.deleteNodes, StatusCode.good⟩) ∧
      restored.table = s.table ∧ restored.references = s.references := by
  have grown := (grown_of_added added).perm rearranged
  obtain ⟨results, left⟩ := removed_of_grown now grown fun r member => by
    rw [rearranged.mem_iff, rearranged.mem_iff]
    exact apart r member
  exact ⟨results, left.eq_of_nil⟩

/-- A type, a variable of that type with an identifier that is assigned, and a property of the
variable: all are deleted, the type first. -/
theorem typed_variable_torn_down :
    let valueType : AddNodeItem := .ofKind .variableType .baseDataVariableType (.numeric 1 1) "T"
    let level : AddNodeItem :=
      { AddNodeItem.ofKind .variable .objectsFolder .null "v" with typeDefinition := .numeric 1 1 }
    let unit : AddNodeItem := .ofKind .property (.numeric 1 50000) (.numeric 1 2) "p"
    let additions := [(Timestamp.epoch, valueType), (.epoch, level), (.epoch, unit)]
    let order : List NodeId := [.numeric 1 1, .numeric 1 50000, .numeric 1 2]
    let grown := standard.after (additions.map addition)
    let restored := grown.after (order.map (removal .epoch))
    grown.nodeCount = standard.nodeCount + 3 ∧
      grown.referenceCount = standard.referenceCount + 6 ∧
      restored.table = standard.table ∧ restored.references = standard.references := by
  intro valueType level unit additions order grown restored
  refine ⟨by decide, by decide, ?_⟩
  exact (deleting_added_nodes_restores standard additions order order .epoch rfl
    (by decide) (.refl _)).2

end OpcUa.AddressSpace
