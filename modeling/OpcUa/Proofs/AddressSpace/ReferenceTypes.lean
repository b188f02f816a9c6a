import OpcUa.Proofs.AddressSpace.Subtypes

/-!
The types of references. A reference gets a type that is there, but deleting a node takes along only
the references that leave it or point at it. So the type of a reference is a reference type, unless
that was deleted and none has been there under its identifier since.
-/

namespace OpcUa.AddressSpace

variable {now : Timestamp} {s s' : AddressSpace} {service : Service} {item : service.Item}
  {result : service.Result} {jobs : List Job} {job : Job} {r : Reference} {id t : NodeId}

/-! ### One item -/

def DeletesNode (id : NodeId) : Event → Prop
  | (⟨_, .deleteNodes, item⟩, ⟨.deleteNodes, status⟩) => item.node = id ∧ ¬ status.isBad
  | _ => False

theorem isReferenceType_iff : s.isReferenceType t ↔ s.class? t = some .referenceType := by
  simp [isReferenceType]

/-- A node that is no longer there was deleted. -/
theorem Outcome.deletesNode (h : Outcome now s service item result s') (before : s.contains id)
    (after : ¬ s'.contains id) : DeletesNode id (⟨now, service, item⟩, ⟨service, result⟩) := by
  cases h with
  | read | refused | linked | unlinked => exact absurd before after
  | written => exact absurd (contains_putNode.mpr (.inr before)) after
  | added => exact (after (contains_attach.mpr (.inr before))).elim
  | deleted | abandoned =>
    refine ⟨?_, by decide⟩
    by_contra other
    exact after (contains_without.mpr ⟨other, before⟩)

theorem Outcome.isReferenceType (h : Outcome now s service item result s')
    (before : s.isReferenceType t) :
    s'.isReferenceType t ∨ DeletesNode t (⟨now, service, item⟩, ⟨service, result⟩) := by
  rw [isReferenceType_iff] at before ⊢
  have there := contains_of_class? before
  by_cases stays : s'.contains t
  · exact .inl ((h.class?_eq there stays).trans before)
  · exact .inr (h.deletesNode there stays)

/-- A reference that was not stored before has a type that is there, or it leads a new node to its
type. -/
theorem Outcome.new_typed (h : Outcome now s service item result s') (stored : r ∈ s'.references)
    (new : r ∉ s.references) :
    s'.isReferenceType r.referenceType ∨ r.referenceType = .hasTypeDefinition := by
  cases h with
  | read | refused | written => exact absurd stored new
  | @linked item source referenceType target classFits isNew =>
    obtain rfl := List.mem_singleton.mp ((List.mem_append.mp stored).resolve_left new)
    rw [item.reference_referenceType]
    exact .inl referenceType
  | @added item id nextId admitted assigned =>
    rw [references_attach] at stored
    rcases AddNodeItem.mem_references.mp ((List.mem_append.mp stored).resolve_left new) with
      rfl | ⟨-, rfl⟩
    · have before := isReferenceType_iff.mp admitted.referenceType
      have there := contains_of_class? before
      have stays : ({ s with nextId := nextId }.attach now item id).contains item.referenceType :=
        contains_attach.mpr (.inr there)
      have step : Outcome now s .addNodes item _ _ := .added admitted assigned
      have same := step.class?_eq there stays
      exact .inl (isReferenceType_iff.mpr (same.trans before))
    · exact .inr rfl
  | deleted | abandoned | unlinked => exact absurd (List.mem_filter.mp stored).1 new

/-! ### Runs -/

/-- A node was deleted, and there has been no reference type under its identifier since. -/
def Retired (jobs : List Job) (t : NodeId) : Prop :=
  Since (fun before job => DeletesNode t ((standard.after before).answered job))
    (fun jobs => ¬ (standard.after jobs).isReferenceType t) jobs

/-- A reference type stays one until it is deleted. -/
theorem typed_snoc (typed : (standard.after jobs).isReferenceType t ∨ Retired jobs t) :
    (standard.after (jobs ++ [job])).isReferenceType t ∨ Retired (jobs ++ [job]) t := by
  by_cases now : (standard.after (jobs ++ [job])).isReferenceType t
  · exact .inl now
  · refine .inr (since_snoc.mpr ⟨now, ?_⟩)
    rcases typed with before | retired
    · rw [after_snoc] at now
      have step := perform_outcome job.now job.service job.item (standard.after jobs)
      exact .inl ((step.isReferenceType before).resolve_left now)
    · exact .inr retired

theorem hasTypeDefinition_typed (jobs : List Job) :
    (standard.after jobs).isReferenceType .hasTypeDefinition ∨ Retired jobs .hasTypeDefinition := by
  induction jobs using List.reverseRecOn with
  | nil => exact .inl (by decide)
  | append_singleton jobs job ih => exact typed_snoc ih

theorem after_typed (jobs : List Job) : ∀ r ∈ (standard.after jobs).references,
    (standard.after jobs).isReferenceType r.referenceType ∨ Retired jobs r.referenceType := by
  induction jobs using List.reverseRecOn with
  | nil =>
    have typed : ∀ r ∈ standard.references, standard.isReferenceType r.referenceType := by decide
    exact fun r stored => .inl (typed r stored)
  | append_singleton jobs job ih =>
    intro r stored
    by_cases old : r ∈ (standard.after jobs).references
    · exact typed_snoc (ih r old)
    · have step := perform_outcome job.now job.service job.item (standard.after jobs)
      rw [after_snoc] at stored
      rcases step.new_typed stored old with typed | link
      · rw [← after_snoc] at typed
        exact .inl typed
      · rw [link]
        exact hasTypeDefinition_typed _

theorem Retired.deletion (retired : Retired jobs t) :
    ∃ now item, ⟨now, .deleteNodes, item⟩ ∈ jobs ∧ item.node = t := by
  obtain ⟨before, ⟨now, service, item⟩, later, rfl, deletes, -⟩ := retired
  cases service with
  | deleteNodes => exact ⟨now, item, by simp, deletes.1⟩
  | _ => exact deletes.elim

/-- After every run of services the type of a reference is a reference type that is there, or a
deletion has removed it: deletions keep the references of the type that they delete. -/
theorem reference_types_present_unless_retired (jobs : List Job) :
    let s := standard.after jobs
    (∀ r ∈ s.references, ¬ s.isReferenceType r.referenceType ↔ Retired jobs r.referenceType) ∧
      (∀ item : DeleteNodeItem, ¬ (s.deleteNode item).1.isBad → ∀ r,
        r ∈ (s.deleteNode item).2.references ↔
          r ∈ s.references ∧ r.source ≠ item.node ∧
            (item.deleteTargetReferences → r.target ≠ item.node)) ∧
      ((∀ r ∈ s.references, ∀ now item, ⟨now, .deleteNodes, item⟩ ∈ jobs →
          item.node ≠ r.referenceType) →
        ∀ r ∈ s.references, s.isReferenceType r.referenceType) := by
  refine ⟨fun r stored => ⟨(after_typed jobs r stored).resolve_left, fun retired => retired.now⟩,
    fun item fine r => ?_, fun kept r stored => (after_typed jobs r stored).resolve_right ?_⟩
  · rw [(deleteNode_of_not_bad fine).2, references_without, List.mem_filter,
      DeleteNodeItem.keeps_iff]
  · intro retired
    obtain ⟨now, item, deletion, same⟩ := retired.deletion
    exact kept r stored now item deletion same

/-- The type by which folders are organized is deleted, and all references of that type stay. -/
theorem folders_organized_by_deleted_type :
    let deletion : Job := ⟨.epoch, .deleteNodes, ⟨.organizes, true⟩⟩
    let s := standard.after [deletion]
    ⟨.rootFolder, .organizes, .objectsFolder⟩ ∈ s.references ∧ ¬ s.contains .organizes ∧
      ¬ ∀ r ∈ s.references, s.isReferenceType r.referenceType := by
  decide

/-- A reference type of the application's own is deleted and added again. -/
theorem reference_type_retired_and_back :
    let id : NodeId := .numeric 1 1
    let addition : Job := ⟨.epoch, .addNodes, .ofKind .referenceType .references id "A"⟩
    let link : Job := ⟨.epoch, .addReferences, .between .objectsFolder .viewsFolder id true⟩
    let deletion : Job := ⟨.epoch, .deleteNodes, ⟨id, true⟩⟩
    Retired [addition, link, deletion] id ∧ ¬ Retired [addition, link, deletion, addition] id := by
  intro id addition link deletion
  have gone := (reference_types_present_unless_retired [addition, link, deletion]).1
    ⟨.objectsFolder, id, .viewsFolder⟩ (by decide)
  have back := (reference_types_present_unless_retired [addition, link, deletion, addition]).1
    ⟨.objectsFolder, id, .viewsFolder⟩ (by decide)
  exact ⟨gone.mp (by decide), fun retired => back.mpr retired (by decide)⟩

end OpcUa.AddressSpace
