import Mathlib.Data.List.Nodup
import OpcUa.AddressSpace.Management

/-!
Identifiers of new nodes. An identifier that the server assigns is free and not null, and the search
for one ends with success as long as a number of the server's namespace is free.
-/

namespace OpcUa.AddressSpace

variable {s : AddressSpace}

theorem candidate_inj {m n : UInt32} : candidate m = candidate n ↔ m = n := by
  simp [candidate, NodeId.numeric]

theorem candidate_ne_null (n : UInt32) : candidate n ≠ .null := by
  intro h
  have namespaces : assignedNamespace = 0 := congrArg NodeId.namespaceIndex h
  exact absurd namespaces (by decide)

theorem isNull_iff {id : NodeId} : id.isNull ↔ id = .null := by
  simp [NodeId.isNull]

theorem mem_keys {id : NodeId} : id ∈ s.table.keys ↔ s.contains id := NodeTable.mem_keys

theorem offset_inj {n : UInt32} {j k : Nat} (hj : j < UInt32.size) (hk : k < UInt32.size)
    (h : n + .ofNat j = n + .ofNat k) : j = k := by
  have same : UInt32.ofNat j = UInt32.ofNat k := by
    have := congrArg (· - n) h
    simpa [UInt32.add_sub_cancel, UInt32.add_comm n] using this
  have nats := congrArg UInt32.toNat same
  rwa [UInt32.toNat_ofNat_of_lt' hj, UInt32.toNat_ofNat_of_lt' hk] at nats

/-- Every number lies at some offset from the counter. -/
theorem offset_exists (n m : UInt32) : ∃ k < UInt32.size, n + .ofNat k = m := by
  refine ⟨(m - n).toNat, UInt32.toNat_lt _, ?_⟩
  rw [UInt32.ofNat_toNat, UInt32.add_comm, UInt32.sub_add_cancel]

/-- The identifiers of so many numbers, from one on. -/
def candidates (n : UInt32) (count : Nat) : List NodeId :=
  (List.range count).map fun k => candidate (n + .ofNat k)

theorem candidates_nodup (n : UInt32) {count : Nat} (few : count ≤ UInt32.size) :
    (candidates n count).Nodup := by
  apply List.Nodup.map_on _ List.nodup_range
  intro j hj k hk same
  rw [List.mem_range] at hj hk
  exact offset_inj (by omega) (by omega) (candidate_inj.mp same)

theorem candidates_add (n : UInt32) (before after : Nat) :
    candidates n (before + after) =
      candidates n before ++ candidates (n + .ofNat before) after := by
  unfold candidates
  rw [List.range_add, List.map_append, List.map_map]
  congr 2
  funext k
  simp only [Function.comp_apply, UInt32.ofNat_add, UInt32.add_assoc]

/-- The search goes over one number more than there are nodes, so it can only fail if there are
more nodes than numbers, and then it has gone over all numbers. -/
theorem freeOffset?_isSome (free : ∃ n, s.contains (candidate n) = false) :
    s.freeOffset?.isSome := by
  by_contra failed
  have taken : ∀ k < min (s.nodeCount + 1) UInt32.size,
      s.contains (candidate (s.nextId + .ofNat k)) := by
    simpa [freeOffset?] using failed
  by_cases few : s.nodeCount < UInt32.size
  · have tried : min (s.nodeCount + 1) UInt32.size = s.nodeCount + 1 := by omega
    rw [tried] at taken
    have distinct : (candidates s.nextId (s.nodeCount + 1)).Nodup := candidates_nodup s.nextId few
    have present : candidates s.nextId (s.nodeCount + 1) ⊆ s.table.keys := by
      intro id member
      obtain ⟨k, hk, rfl⟩ := List.mem_map.mp member
      exact mem_keys.mpr (taken k (List.mem_range.mp hk))
    have bound := distinct.length_le_of_subset present
    have keys : s.table.keys.length = s.nodeCount := List.length_map _
    simp only [candidates, List.length_map, List.length_range, keys] at bound
    omega
  · obtain ⟨n, unused⟩ := free
    obtain ⟨k, hk, rfl⟩ := offset_exists s.nextId n
    have used := taken k (by omega)
    rw [used] at unused
    contradiction

theorem freeOffset?_free {k : Nat} (h : s.freeOffset? = some k) :
    s.contains (candidate (s.nextId + .ofNat k)) = false := by
  simpa using List.find?_some h

theorem assignId_given {requested : NodeId} (given : requested ≠ .null) :
    s.assignId requested = .ok (requested, s.nextId) := by
  simp [assignId, NodeId.isNull, given]

theorem assignId_null :
    s.assignId .null =
      match s.freeOffset? with
      | some k => .ok (candidate (s.nextId + .ofNat k), s.nextId + .ofNat k + 1)
      | none => .error .badTooManyOperations := rfl

/-- A new node gets the identifier that was asked for, or one of the server's namespace. -/
theorem assignId_ok {requested id : NodeId} {nextId : UInt32}
    (h : s.assignId requested = .ok (id, nextId)) :
    id = requested ∧ requested ≠ .null ∧ nextId = s.nextId ∨
      requested = .null ∧ s.contains id = false ∧ ∃ n, id = candidate n ∧ nextId = n + 1 := by
  unfold assignId at h
  by_cases null : requested.isNull
  · simp only [null, Bool.not_true, Bool.false_eq_true, if_false] at h
    split at h
    next k found =>
      cases h
      exact .inr ⟨isNull_iff.mp null, freeOffset?_free found, _, rfl, rfl⟩
    next => cases h
  · simp only [null, Bool.not_false, if_true] at h
    cases h
    exact .inl ⟨rfl, fun eq => null (isNull_iff.mpr eq), rfl⟩

theorem assignId_ne_null {requested id : NodeId} {nextId : UInt32}
    (h : s.assignId requested = .ok (id, nextId)) : id ≠ .null := by
  rcases assignId_ok h with ⟨rfl, given, -⟩ | ⟨-, -, n, rfl, -⟩
  · exact given
  · exact candidate_ne_null n

theorem assignId_unused {requested id : NodeId} {nextId : UInt32}
    (unused : requested = .null ∨ s.contains requested = false)
    (h : s.assignId requested = .ok (id, nextId)) : s.contains id = false := by
  rcases assignId_ok h with ⟨rfl, given, -⟩ | ⟨-, free, -⟩
  · exact unused.resolve_left given
  · exact free

/-- An identifier is found as long as there is one. -/
theorem assignId_ends (free : ∃ n, s.contains (candidate n) = false) (requested : NodeId) :
    ∃ found, s.assignId requested = .ok found := by
  obtain ⟨k, found⟩ := Option.isSome_iff_exists.mp (freeOffset?_isSome free)
  unfold assignId
  split
  · exact ⟨_, rfl⟩
  · rw [found]
    exact ⟨_, rfl⟩

end OpcUa.AddressSpace
