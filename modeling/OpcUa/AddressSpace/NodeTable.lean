import OpcUa.AddressSpace.Node

/-!
Tables that keep nodes under identifiers, each of which occurs once. A table is known through
`find?`; the lemmas say what `insert` and `erase` do to it.
-/

namespace OpcUa

structure NodeTable where
  entries : List (NodeId × Node)
  nodup : (entries.map Prod.fst).Nodup

namespace NodeTable

def empty : NodeTable := ⟨[], List.nodup_nil⟩

instance : Inhabited NodeTable := ⟨empty⟩

def keys (t : NodeTable) : List NodeId := t.entries.map Prod.fst

def find? (t : NodeTable) (id : NodeId) : Option Node := t.entries.lookup id

def contains (t : NodeTable) (id : NodeId) : Bool := (t.find? id).isSome

def size (t : NodeTable) : Nat := t.entries.length

def place (id : NodeId) (n : Node) : List (NodeId × Node) → List (NodeId × Node)
  | [] => [(id, n)]
  | e :: rest => if e.1 = id then (id, n) :: rest else e :: place id n rest

theorem mem_keys_place {id key : NodeId} {n : Node} {l : List (NodeId × Node)} :
    key ∈ (place id n l).map Prod.fst ↔ key = id ∨ key ∈ l.map Prod.fst := by
  induction l with
  | nil => simp [place]
  | cons e rest ih =>
    unfold place
    split
    next h => simp [h]
    next =>
      rw [List.map_cons, List.mem_cons, ih, List.map_cons, List.mem_cons]
      constructor
      · rintro (h | h | h) <;> simp [h]
      · rintro (h | h | h) <;> simp [h]

theorem nodup_place {id : NodeId} {n : Node} {l : List (NodeId × Node)}
    (h : (l.map Prod.fst).Nodup) : ((place id n l).map Prod.fst).Nodup := by
  induction l with
  | nil => simp [place]
  | cons e rest ih =>
    rw [List.map_cons, List.nodup_cons] at h
    unfold place
    split
    next same => rw [List.map_cons, List.nodup_cons, ← same]; exact h
    next other =>
      rw [List.map_cons, List.nodup_cons, mem_keys_place]
      exact ⟨not_or.2 ⟨other, h.1⟩, ih h.2⟩

theorem lookup_cons (e : NodeId × Node) (l : List (NodeId × Node)) (key : NodeId) :
    (e :: l).lookup key = if e.1 = key then some e.2 else l.lookup key := by
  rw [List.lookup_cons]
  by_cases h : e.1 = key
  · simp [h]
  · rw [beq_eq_false_iff_ne.2 (Ne.symm h), if_neg h]

theorem lookup_place {id key : NodeId} {n : Node} {l : List (NodeId × Node)} :
    (place id n l).lookup key = if id = key then some n else l.lookup key := by
  induction l with
  | nil => rw [place, lookup_cons]
  | cons e rest ih =>
    unfold place
    by_cases same : e.1 = id
    · rw [if_pos same, lookup_cons, lookup_cons, same]
      split <;> rfl
    · rw [if_neg same, lookup_cons, lookup_cons, ih]
      by_cases h : e.1 = key
      · have other : id ≠ key := fun eq => same (h.trans eq.symm)
        rw [if_pos h, if_neg other, if_pos h]
      · rw [if_neg h, if_neg h]

theorem place_self {id : NodeId} {n : Node} {l : List (NodeId × Node)}
    (h : l.lookup id = some n) : place id n l = l := by
  induction l with
  | nil => simp at h
  | cons e rest ih =>
    rw [lookup_cons] at h
    unfold place
    by_cases same : e.1 = id
    · rw [if_pos same] at h
      obtain rfl := Option.some.inj h
      rw [if_pos same, ← same]
    · rw [if_neg same] at h
      rw [if_neg same, ih h]

theorem place_place {id : NodeId} {m n : Node} {l : List (NodeId × Node)} :
    place id n (place id m l) = place id n l := by
  induction l with
  | nil => simp [place]
  | cons e rest ih =>
    by_cases same : e.1 = id
    · simp [place, same]
    · simp [place, same, ih]

theorem place_new {id : NodeId} {n : Node} {l : List (NodeId × Node)}
    (h : l.lookup id = none) : place id n l = l ++ [(id, n)] := by
  induction l with
  | nil => rfl
  | cons e rest ih =>
    rw [lookup_cons] at h
    unfold place
    by_cases same : e.1 = id
    · rw [if_pos same] at h
      cases h
    · rw [if_neg same] at h
      rw [if_neg same, ih h, List.cons_append]

theorem mem_of_lookup {id : NodeId} {n : Node} {l : List (NodeId × Node)}
    (h : l.lookup id = some n) : (id, n) ∈ l := by
  induction l with
  | nil => simp at h
  | cons e rest ih =>
    rw [lookup_cons] at h
    by_cases same : e.1 = id
    · rw [if_pos same] at h
      obtain rfl := Option.some.inj h
      exact same ▸ List.mem_cons_self
    · rw [if_neg same] at h
      exact List.mem_cons_of_mem _ (ih h)

def insert (t : NodeTable) (id : NodeId) (n : Node) : NodeTable :=
  ⟨place id n t.entries, nodup_place t.nodup⟩

def erase (t : NodeTable) (id : NodeId) : NodeTable :=
  ⟨t.entries.filter (·.1 != id), t.nodup.sublist (List.filter_sublist.map Prod.fst)⟩

@[simp] theorem find?_empty (id : NodeId) : empty.find? id = none := rfl

theorem find?_insert (t : NodeTable) (id : NodeId) (n : Node) (key : NodeId) :
    (t.insert id n).find? key = if id = key then some n else t.find? key := lookup_place

/-- Putting a node where it already is changes nothing. -/
theorem insert_self {t : NodeTable} {id : NodeId} {n : Node} (h : t.find? id = some n) :
    t.insert id n = t := by
  obtain ⟨entries, nodup⟩ := t
  simp only [insert, mk.injEq]
  exact place_self h

/-- A node under a new identifier comes last. -/
theorem entries_insert {t : NodeTable} {id : NodeId} {n : Node} (h : t.find? id = none) :
    (t.insert id n).entries = t.entries ++ [(id, n)] := place_new h

/-- Of two nodes that are put in one place the later one stays. -/
theorem insert_insert (t : NodeTable) (id : NodeId) (m n : Node) :
    (t.insert id m).insert id n = t.insert id n := by
  simp only [insert, mk.injEq]
  exact place_place

theorem find?_erase (t : NodeTable) (gone key : NodeId) :
    (t.erase gone).find? key = if gone = key then none else t.find? key := by
  show (t.entries.filter _).lookup key = if gone = key then none else t.entries.lookup key
  induction t.entries with
  | nil => simp
  | cons e rest ih =>
    by_cases same : e.1 = gone
    · rw [List.filter_cons_of_neg (by simp [same]), ih, lookup_cons, same]
      split <;> rfl
    · rw [List.filter_cons_of_pos (by simp [same]), lookup_cons, lookup_cons, ih]
      by_cases h : e.1 = key
      · have other : gone ≠ key := fun eq => same (h.trans eq.symm)
        rw [if_pos h, if_neg other, if_pos h]
      · rw [if_neg h, if_neg h]

theorem mem_of_find? {t : NodeTable} {id : NodeId} {n : Node} (h : t.find? id = some n) :
    (id, n) ∈ t.entries := mem_of_lookup h

theorem mem_keys {t : NodeTable} {id : NodeId} : id ∈ t.keys ↔ t.contains id := by
  unfold keys contains find?
  induction t.entries with
  | nil => simp
  | cons e rest ih =>
    rw [List.map_cons, List.mem_cons, ih, lookup_cons]
    by_cases h : e.1 = id
    · simp [h]
    · simp [h, Ne.symm h]

end NodeTable

end OpcUa
