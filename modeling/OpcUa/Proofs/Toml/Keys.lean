import OpcUa.Toml.Reader

/-!
The keys of a document are distinct. Members are only added under a key that is new, and a member
that changes stays in its place, so that looking a key up finds all that the document says of it.
-/

namespace OpcUa.Toml

namespace Members

def Distinct (ms : Members) : Prop := (ms.map Prod.fst).Nodup

variable {ms ms' : Members} {key : String} {v : Value}

theorem isNew_iff : ms.lookup key = none ↔ key ∉ ms.map Prod.fst := by
  rw [List.lookup_eq_none_iff, List.mem_map]
  constructor
  · rintro new ⟨m, held, rfl⟩
    simpa using new m held
  · intro new m held
    exact bne_iff_ne.mpr fun same => new ⟨m, held, same.symm⟩

theorem Distinct.append (distinct : ms.Distinct) (new : ms.lookup key = none) (v : Value) :
    Distinct (ms ++ [(key, v)]) := by
  rw [Distinct, List.map_append, List.map_singleton, List.nodup_append]
  refine ⟨distinct, by simp, ?_⟩
  intro k held other single same
  rw [same, List.mem_singleton.mp single] at held
  exact isNew_iff.mp new held

theorem keys_replace (ms : Members) (key : String) (v : Value) :
    (ms.replace key v).map Prod.fst = ms.map Prod.fst := by
  rw [replace, List.map_map]
  apply List.map_congr_left
  intro m _
  by_cases same : m.1 = key <;> simp [same]

theorem Distinct.replace (distinct : ms.Distinct) (key : String) (v : Value) :
    (ms.replace key v).Distinct := by
  rw [Distinct, keys_replace]
  exact distinct

theorem Distinct.without (distinct : ms.Distinct) (key : String) : (ms.without key).Distinct :=
  distinct.sublist (List.filter_sublist.map _)

theorem lookup_without (ms : Members) (key : String) : (ms.without key).lookup key = none := by
  rw [List.lookup_eq_none_iff]
  intro m held
  have other : m.1 ≠ key := bne_iff_ne.mp (List.mem_filter.mp held).2
  exact bne_iff_ne.mpr other.symm

/-- The table that a path starts from gets at most one new key; what happens at the end of a longer
path is out of its sight. -/
theorem Distinct.change {isDotted : Bool} {f : Origin → Members → Option Members}
    (keeps : ∀ origin inner inner', Distinct inner → f origin inner = some inner' →
      Distinct inner')
    {path : List String} {origin : Origin} (distinct : ms.Distinct)
    (changed : ms.change isDotted f path origin = some ms') : ms'.Distinct := by
  cases path with
  | nil => exact keeps origin ms ms' distinct changed
  | cons key path =>
    rw [Members.change] at changed
    split at changed
    next new =>
      obtain ⟨inner, -, added⟩ := Option.bind_eq_some_iff.mp changed
      cases added
      exact distinct.append new _
    next =>
      split at changed
      · cases changed
      · obtain ⟨inner, -, replaced⟩ := Option.bind_eq_some_iff.mp changed
        cases replaced
        exact distinct.replace _ _
    next =>
      split at changed
      · cases changed
      · obtain ⟨inner, -, replaced⟩ := Option.bind_eq_some_iff.mp changed
        cases replaced
        exact distinct.replace _ _
    next => cases changed

theorem Distinct.put {path : List String} (distinct : ms.Distinct)
    (done : ms.put path key v = some ms') : ms'.Distinct := by
  refine Distinct.change ?_ distinct done
  intro origin inner inner' held added
  split at added
  · cases added
  next fits =>
    cases added
    have new : inner.lookup key = none := by
      simp only [Bool.or_eq_true, not_or, Bool.not_eq_true] at fits
      exact Option.isNone_iff_eq_none.mp (Option.isSome_eq_false_iff.mp fits.2)
    exact held.append new _

theorem Distinct.putAt {header path : List String} (distinct : ms.Distinct)
    (done : ms.putAt header path key v = some ms') : ms'.Distinct :=
  Distinct.change (fun _ _ _ held added => held.put added) distinct done

theorem Distinct.openTable {path : List String} (distinct : ms.Distinct)
    (done : ms.openTable path key = some ms') : ms'.Distinct := by
  refine Distinct.change ?_ distinct done
  intro origin inner inner' held opened
  split at opened
  next new =>
    cases opened
    exact held.append new _
  next =>
    cases opened
    exact (held.without key).append (lookup_without inner key) _
  next => cases opened

theorem Distinct.openElement {path : List String} (distinct : ms.Distinct)
    (done : ms.openElement path key = some ms') : ms'.Distinct := by
  refine Distinct.change ?_ distinct done
  intro origin inner inner' held opened
  split at opened
  next new =>
    cases opened
    exact held.append new _
  next =>
    cases opened
    exact held.replace _ _
  next => cases opened

end Members

theorem readDocument_distinct {budget : Nat} {header : List String} {ms ms' : Members}
    {cs : List Char} (distinct : ms.Distinct)
    (read : readDocument budget header ms cs = some ms') : ms'.Distinct := by
  induction budget generalizing header ms cs with
  | zero => cases read
  | succ budget ih =>
    rw [readDocument] at read
    split at read
    next =>
      cases read
      exact distinct
    next => exact ih distinct read
    next => exact ih distinct read
    next =>
      obtain ⟨rest, -, read⟩ := Option.bind_eq_some_iff.mp read
      exact ih distinct read
    next =>
      obtain ⟨⟨path, key, rest⟩, -, read⟩ := Option.bind_eq_some_iff.mp read
      obtain ⟨opened, done, read⟩ := Option.bind_eq_some_iff.mp read
      exact ih (distinct.openElement done) read
    next =>
      obtain ⟨⟨path, key, rest⟩, -, read⟩ := Option.bind_eq_some_iff.mp read
      obtain ⟨opened, done, read⟩ := Option.bind_eq_some_iff.mp read
      exact ih (distinct.openTable done) read
    next =>
      obtain ⟨⟨path, key, rest⟩, -, read⟩ := Option.bind_eq_some_iff.mp read
      obtain ⟨⟨v, rest⟩, -, read⟩ := Option.bind_eq_some_iff.mp read
      obtain ⟨rest, -, read⟩ := Option.bind_eq_some_iff.mp read
      obtain ⟨added, done, read⟩ := Option.bind_eq_some_iff.mp read
      exact ih (distinct.putAt done) read

/-- No two members of a document have the same key. -/
theorem ofText?_distinct {s : String} {ms : Members} (read : ofText? s = some ms) :
    ms.Distinct := by
  have empty : Members.Distinct [] := List.nodup_nil
  exact readDocument_distinct empty read

end OpcUa.Toml
