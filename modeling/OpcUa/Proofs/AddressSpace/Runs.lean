import Mathlib.Data.List.Induction
import OpcUa.AddressSpace.Standard
import OpcUa.Proofs.AddressSpace.OneByOne
import OpcUa.Proofs.AddressSpace.Outcomes

/-!
Runs of operations on an address space. What every outcome keeps holds after any number of items,
also where it speaks of the items that were carried out before and of their results.
-/

namespace OpcUa.AddressSpace

/-- The address spaces that come from the empty and from the standard one by services and, where
`inserting` holds, by variables that are put in without checks. -/
inductive Reached (inserting : Prop) : AddressSpace → Prop
  | empty : Reached inserting .empty
  | standard : Reached inserting .standard
  | served {s : AddressSpace} (reached : Reached inserting s) (now : Timestamp)
      (service : Service) (item : service.Item) : Reached inserting (perform now service item s).2
  | inserted {s : AddressSpace} (allowed : inserting) (reached : Reached inserting s)
      (parent id : NodeId) (name : String) (value : Variant) (now : Timestamp) :
      Reached inserting (s.insertVariable parent id name value now)

/-- An item that was carried out, and its result. -/
abbrev Event := Job × AnyResult

def after (s : AddressSpace) (jobs : List Job) : AddressSpace := (performEach jobs s).2

def transcript (s : AddressSpace) (jobs : List Job) : List Event := jobs.zip (performEach jobs s).1

/-- A job with the result that it has on an address space. -/
def answered (s : AddressSpace) (job : Job) : Event :=
  (job, ⟨job.service, (perform job.now job.service job.item s).1⟩)

variable {s : AddressSpace}

@[simp] theorem after_nil : s.after [] = s := rfl

theorem after_cons (job : Job) (rest : List Job) :
    s.after (job :: rest) = (perform job.now job.service job.item s).2.after rest := rfl

theorem transcript_cons (job : Job) (rest : List Job) :
    s.transcript (job :: rest) =
      s.answered job :: (perform job.now job.service job.item s).2.transcript rest := rfl

theorem length_performEach (jobs : List Job) (s : AddressSpace) :
    (performEach jobs s).1.length = jobs.length := by
  induction jobs generalizing s with
  | nil => rfl
  | cons job rest ih => simp [performEach, ih]

theorem performEach_snoc (jobs : List Job) (job : Job) (s : AddressSpace) :
    performEach (jobs ++ [job]) s =
      ((performEach jobs s).1 ++
          [⟨job.service, (perform job.now job.service job.item (s.after jobs)).1⟩],
        (perform job.now job.service job.item (s.after jobs)).2) :=
  performEach_append rfl rfl

theorem after_snoc (jobs : List Job) (job : Job) :
    s.after (jobs ++ [job]) = (perform job.now job.service job.item (s.after jobs)).2 :=
  congrArg Prod.snd (performEach_snoc jobs job s)

theorem transcript_snoc (jobs : List Job) (job : Job) :
    s.transcript (jobs ++ [job]) = s.transcript jobs ++ [(s.after jobs).answered job] := by
  unfold transcript
  rw [performEach_snoc, List.zip_append (length_performEach jobs s).symm]
  rfl

/-- What holds at the start and is kept by every outcome holds after every run. -/
theorem run_induction {P : List Event → AddressSpace → Prop} (start : P [] s)
    (step : ∀ {events : List Event} {s s' : AddressSpace} {now : Timestamp} {service : Service}
      {item : service.Item} {result : service.Result}, P events s →
      Outcome now s service item result s' →
      P (events ++ [(⟨now, service, item⟩, ⟨service, result⟩)]) s')
    (jobs : List Job) : P (s.transcript jobs) (s.after jobs) := by
  induction jobs using List.reverseRecOn with
  | nil => exact start
  | append_singleton jobs job ih =>
    rw [transcript_snoc, after_snoc]
    exact step ih (perform_outcome job.now job.service job.item (s.after jobs))

/-! ### What has happened in a run -/

/-- Something happened in a run, and something else has held since then. -/
def Since (happens : List Job → Job → Prop) (holds : List Job → Prop) (jobs : List Job) : Prop :=
  ∃ before job later, jobs = before ++ job :: later ∧ happens before job ∧
    ∀ since, since <+: later → holds (before ++ job :: since)

variable {happens : List Job → Job → Prop} {holds : List Job → Prop} {jobs : List Job} {job : Job}

theorem not_since_nil : ¬ Since happens holds [] := by
  rintro ⟨before, job, later, split, -⟩
  simp at split

theorem Since.now (h : Since happens holds jobs) : holds jobs := by
  obtain ⟨before, job, later, rfl, -, held⟩ := h
  exact held later List.prefix_rfl

/-- It holds now, and it has just happened or had happened before. -/
theorem since_snoc :
    Since happens holds (jobs ++ [job]) ↔
      holds (jobs ++ [job]) ∧ (happens jobs job ∨ Since happens holds jobs) := by
  constructor
  · rintro ⟨before, cause, later, split, happened, held⟩
    refine ⟨split ▸ held later List.prefix_rfl, ?_⟩
    rcases List.eq_nil_or_concat later with rfl | ⟨later, last, rfl⟩
    · obtain ⟨rfl, same⟩ := List.append_inj' split rfl
      cases same
      exact .inl happened
    · rw [List.concat_eq_append] at split held
      rw [← List.cons_append, ← List.append_assoc] at split
      obtain ⟨rfl, -⟩ := List.append_inj' split rfl
      refine .inr ⟨before, cause, later, rfl, happened, fun since front => ?_⟩
      exact held since (front.trans (List.prefix_append ..))
  · rintro ⟨now, happened | ⟨before, cause, later, rfl, happened, held⟩⟩
    · refine ⟨jobs, job, [], rfl, happened, fun since front => ?_⟩
      obtain rfl := List.prefix_nil.mp front
      exact now
    · refine ⟨before, cause, later ++ [job], by simp, happened, fun since front => ?_⟩
      rcases List.prefix_concat_iff.mp front with rfl | front
      · simpa using now
      · exact held since front

end OpcUa.AddressSpace
