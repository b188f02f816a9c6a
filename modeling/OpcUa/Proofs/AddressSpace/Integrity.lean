import OpcUa.Proofs.AddressSpace.Runs

/-!
Referential integrity. Every reference leaves a node that is there. A reference can point at a node
that is not there only if the node was deleted without the references to it, which the answer to
that deletion has told, and was not added again since.
-/

namespace OpcUa.AddressSpace

variable {now : Timestamp} {s s' : AddressSpace} {service : Service} {item : service.Item}
  {result : service.Result} {events : List Event} {t : NodeId}

/-! ### Sources -/

/-- Every reference leaves a node that is there. -/
def Rooted (s : AddressSpace) : Prop := ∀ r ∈ s.references, s.contains r.source

theorem standard_rooted : standard.Rooted := by
  unfold Rooted
  decide

theorem Outcome.rooted (rooted : s.Rooted) (h : Outcome now s service item result s') :
    s'.Rooted := by
  intro r member
  cases h with
  | read | refused => exact rooted r member
  | written => exact contains_putNode.mpr (.inr (rooted r member))
  | added admitted assigned =>
    apply contains_attach.mpr
    rw [references_attach, List.mem_append, AddNodeItem.mem_references] at member
    rcases member with old | rfl | ⟨-, rfl⟩
    · exact .inr (rooted r old)
    · exact .inr admitted.parent
    · exact .inl rfl
  | @linked item source referenceType target =>
    rcases List.mem_append.mp member with old | new
    · exact rooted r old
    · obtain rfl := List.mem_singleton.mp new
      rcases item.reference_ends with ⟨from_source, -⟩ | ⟨from_target, -⟩
      · rw [from_source]
        exact source
      · rw [from_target]
        exact target
  | deleted | abandoned =>
    obtain ⟨stored, kept⟩ := List.mem_filter.mp member
    apply contains_without.mpr
    exact ⟨(DeleteNodeItem.keeps_iff.mp kept).1.symm, rooted r stored⟩
  | unlinked => exact rooted r (List.mem_filter.mp member).1

theorem after_rooted (jobs : List Job) : (standard.after jobs).Rooted :=
  run_induction (P := fun _ s => s.Rooted) standard_rooted (fun rooted h => h.rooted rooted) jobs

/-! ### Targets -/

/-- A node was deleted without the references to it, as the answer told, and not added since. -/
def LeftBehind (events : List Event) (t : NodeId) : Prop :=
  ∃ before now after,
    events = before ++ (⟨now, .deleteNodes, ⟨t, false⟩⟩,
        ⟨.deleteNodes, StatusCode.uncertainReferenceNotDeleted⟩) :: after ∧
      ∀ e ∈ after, e.2 ≠ ⟨.addNodes, ⟨.good, t⟩⟩

theorem LeftBehind.later (h : LeftBehind events t) {e : Event}
    (other : e.2 ≠ ⟨.addNodes, ⟨.good, t⟩⟩) : LeftBehind (events ++ [e]) t := by
  obtain ⟨before, now, after, rfl, none⟩ := h
  refine ⟨before, now, after ++ [e], by simp, ?_⟩
  intro e' member
  rcases List.mem_append.mp member with old | new
  · exact none e' old
  · obtain rfl := List.mem_singleton.mp new
    exact other

/-- A node is there after it has been added. -/
theorem Outcome.addition_present (h : Outcome now s service item result s')
    (addition : (⟨service, result⟩ : AnyResult) = ⟨.addNodes, ⟨.good, t⟩⟩) : s'.contains t := by
  cases h with
  | added =>
    cases addition
    exact contains_attach.mpr (.inl rfl)
  | refused _ _ status bad =>
    cases service with
    | addNodes =>
      cases addition
      exact absurd bad (by decide)
    | _ => cases addition
  | _ => cases addition

/-- A reference points at nothing if it did before, or if the item has just deleted the node that it
points at and told that references to it stay. -/
theorem Outcome.dangling (h : Outcome now s service item result s') {r : Reference}
    (member : r ∈ s'.references) (missing : ¬ s'.contains r.target) :
    (r ∈ s.references ∧ ¬ s.contains r.target) ∨
      ((⟨now, service, item⟩, ⟨service, result⟩) : Event) =
        (⟨now, .deleteNodes, ⟨r.target, false⟩⟩,
          ⟨.deleteNodes, StatusCode.uncertainReferenceNotDeleted⟩) := by
  cases h with
  | read | refused => exact .inl ⟨member, missing⟩
  | written => exact .inl ⟨member, fun there => missing (contains_putNode.mpr (.inr there))⟩
  | @added item id nextId admitted assigned =>
    rw [contains_attach, not_or] at missing
    rw [references_attach, List.mem_append, AddNodeItem.mem_references] at member
    rcases member with old | rfl | ⟨typed, rfl⟩
    · exact .inl ⟨old, missing.2⟩
    · exact absurd rfl missing.1
    · exact absurd (admitted.type_present typed) missing.2
  | @linked item source referenceType target =>
    rcases List.mem_append.mp member with old | new
    · exact .inl ⟨old, missing⟩
    · obtain rfl := List.mem_singleton.mp new
      rcases item.reference_ends with ⟨-, to_target⟩ | ⟨-, to_source⟩
      · exact absurd target (to_target ▸ missing)
      · exact absurd source (to_source ▸ missing)
  | @deleted item present gone =>
    obtain ⟨stored, kept⟩ := List.mem_filter.mp member
    obtain ⟨elsewhere, unflagged⟩ := DeleteNodeItem.keeps_iff.mp kept
    refine .inl ⟨stored, fun there => missing (contains_without.mpr ⟨?_, there⟩)⟩
    -- If it pointed at the deleted node, the node would still be referred to.
    intro same
    apply gone
    refine ⟨?_, r, stored, elsewhere, same.symm⟩
    exact Bool.eq_false_iff.mpr fun flag => unflagged flag same.symm
  | @abandoned item present referred =>
    obtain ⟨stored, kept⟩ := List.mem_filter.mp member
    by_cases same : item.node = r.target
    · obtain ⟨node, flag⟩ := item
      obtain rfl : node = r.target := same
      obtain rfl : flag = false := referred.1
      exact .inr rfl
    · exact .inl ⟨stored, fun there => missing (contains_without.mpr ⟨same, there⟩)⟩
  | unlinked => exact .inl ⟨(List.mem_filter.mp member).1, missing⟩

/-- Every reference that points at nothing points at a node that was left behind. -/
def Explained (events : List Event) (s : AddressSpace) : Prop :=
  ∀ r ∈ s.references, ¬ s.contains r.target → LeftBehind events r.target

theorem standard_explained : Explained [] standard := by
  have whole : ∀ r ∈ standard.references, standard.contains r.target := by decide
  intro r member missing
  exact absurd (whole r member) missing

theorem Outcome.explained (explained : Explained events s)
    (h : Outcome now s service item result s') :
    Explained (events ++ [(⟨now, service, item⟩, ⟨service, result⟩)]) s' := by
  intro r member missing
  rcases h.dangling member missing with ⟨stored, before⟩ | deletion
  · apply (explained r stored before).later
    intro addition
    exact missing (h.addition_present addition)
  · exact ⟨events, now, [], by rw [deletion], by simp⟩

theorem after_explained (jobs : List Job) :
    Explained (standard.transcript jobs) (standard.after jobs) :=
  run_induction standard_explained (fun explained h => h.explained explained) jobs

theorem LeftBehind.deletion {jobs : List Job} (h : LeftBehind (s.transcript jobs) t) :
    ∃ now, ⟨now, .deleteNodes, ⟨t, false⟩⟩ ∈ jobs := by
  obtain ⟨before, now, after, split, -⟩ := h
  have member : (⟨now, .deleteNodes, ⟨t, false⟩⟩,
      ⟨.deleteNodes, StatusCode.uncertainReferenceNotDeleted⟩) ∈ s.transcript jobs := by
    simp [split]
  exact ⟨now, (List.of_mem_zip member).1⟩

/-- Nothing is left behind where all deletions take the references along. -/
theorem not_leftBehind {jobs : List Job}
    (flagged : ∀ now item, ⟨now, .deleteNodes, item⟩ ∈ jobs → item.deleteTargetReferences) :
    ¬ LeftBehind (s.transcript jobs) t := by
  intro left
  obtain ⟨now, deletion⟩ := left.deletion
  exact absurd (flagged now _ deletion) Bool.false_ne_true

/-- Where all deletions take the references along, every reference leads to a node. -/
theorem targets_present {jobs : List Job}
    (flagged : ∀ now item, ⟨now, .deleteNodes, item⟩ ∈ jobs → item.deleteTargetReferences) :
    ∀ r ∈ (standard.after jobs).references, (standard.after jobs).contains r.target := by
  intro r stored
  by_contra missing
  exact not_leftBehind flagged (after_explained jobs r stored missing)

/-! ### Deletions -/

theorem deleteNode_uncertain_iff {item : DeleteNodeItem} :
    (s.deleteNode item).1 = .uncertainReferenceNotDeleted ↔
      s.contains item.node ∧ s.StillReferred item := by
  have distinct : StatusCode.good ≠ .uncertainReferenceNotDeleted := by decide
  by_cases present : s.contains item.node
  · rw [deleteNode_of_present present]
    by_cases referred : s.StillReferred item <;> simp [present, referred, distinct]
  · have refused : (s.deleteNode item).1 = .badNodeIdUnknown := by
      unfold deleteNode
      simp [present]
    have unlike : StatusCode.badNodeIdUnknown ≠ .uncertainReferenceNotDeleted := by decide
    simp [present, refused, unlike]

theorem deleteNode_of_not_bad {item : DeleteNodeItem} (fine : ¬ (s.deleteNode item).1.isBad) :
    s.contains item.node ∧ (s.deleteNode item).2 = s.without item := by
  by_cases present : s.contains item.node
  · exact ⟨present, by rw [deleteNode_of_present present]⟩
  · refine absurd ?_ fine
    unfold deleteNode
    simp only [present, Bool.not_false, if_true]
    rfl

/-- After every run of services a reference leaves a node that is there, and leads to one unless a
deletion has left it behind, as the answer told. -/
theorem references_lead_to_nodes_unless_left_behind (jobs : List Job) :
    let s := standard.after jobs
    (∀ r ∈ s.references, s.contains r.source) ∧
      (∀ r ∈ s.references, ¬ s.contains r.target →
        LeftBehind (standard.transcript jobs) r.target) ∧
      (∀ item : DeleteNodeItem,
        ((s.deleteNode item).1 = .uncertainReferenceNotDeleted ↔
          item.deleteTargetReferences = false ∧ s.contains item.node ∧
            ∃ r ∈ s.references, s.contains r.source ∧ r.source ≠ item.node ∧
              r.target = item.node) ∧
        (¬ (s.deleteNode item).1.isBad →
          (∀ id, (s.deleteNode item).2.node? id =
            if item.node = id then none else s.node? id) ∧
          (s.deleteNode item).2.references = s.references.filter item.keeps)) ∧
      ((∀ now item, ⟨now, .deleteNodes, item⟩ ∈ jobs → item.deleteTargetReferences) →
        ∀ r ∈ s.references, s.contains r.target) := by
  have rooted := after_rooted jobs
  have explained := after_explained jobs
  generalize standard.after jobs = s at rooted explained ⊢
  refine ⟨rooted, explained, fun item => ⟨?_, fun fine => ?_⟩, fun flagged r member => ?_⟩
  · rw [deleteNode_uncertain_iff]
    constructor
    · rintro ⟨present, unflagged, r, member, elsewhere, here⟩
      exact ⟨unflagged, present, r, member, rooted r member, elsewhere, here⟩
    · rintro ⟨unflagged, present, r, member, -, elsewhere, here⟩
      exact ⟨present, unflagged, r, member, elsewhere, here⟩
  · rw [(deleteNode_of_not_bad fine).2]
    exact ⟨fun id => node?_without, references_without⟩
  · by_contra missing
    obtain ⟨now, deletion⟩ := (explained r member missing).deletion
    exact absurd (flagged now _ deletion) Bool.false_ne_true

/-- A folder that is deleted, but not the reference to it, and added again. -/
theorem deleted_folder_left_behind :
    let id : NodeId := .numeric 1 1
    let addition : Job := ⟨.epoch, .addNodes, .ofKind .folder .objectsFolder id "A"⟩
    let deletion : Job := ⟨.epoch, .deleteNodes, ⟨id, false⟩⟩
    let left := standard.after [addition, deletion]
    (⟨.objectsFolder, .organizes, id⟩ ∈ left.references) ∧ ¬ left.contains id ∧
      LeftBehind (standard.transcript [addition, deletion]) id ∧
      (left.deleteNode ⟨.objectsFolder, false⟩).1 = .uncertainReferenceNotDeleted := by
  intro id addition deletion left
  have general := references_lead_to_nodes_unless_left_behind [addition, deletion]
  have stored : (⟨.objectsFolder, .organizes, id⟩ : Reference) ∈ left.references := by decide
  have missing : ¬ left.contains id := by decide
  refine ⟨stored, missing, general.2.1 _ stored missing, ?_⟩
  apply (general.2.2.1 ⟨.objectsFolder, false⟩).1.mpr
  exact ⟨rfl, by decide, ⟨.rootFolder, .organizes, .objectsFolder⟩, by decide⟩

end OpcUa.AddressSpace
