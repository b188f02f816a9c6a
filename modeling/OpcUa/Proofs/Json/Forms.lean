import OpcUa.Json.Document
import OpcUa.Proofs.Json.Text

/-!
Forms that give back what they have written. Whether a value is given back depends on it only
through the levels of arrays and objects in what is written: if the reader may enter that many, it
returns the value, and if not, it returns nothing.
-/

namespace OpcUa

/-! ### Levels -/

/-- Whether no more arrays and objects than that stand within one another. -/
def Json.isWithin : Nat → Json → Bool
  | levels + 1, .array vs => vs.all (isWithin levels)
  | levels + 1, .object ms => ms.all fun m => isWithin levels m.2
  | 0, .array _ | 0, .object _ => false
  | _, .null | _, .bool _ | _, .number _ | _, .text _ => true

namespace Json

@[simp] theorem isWithin_null (levels : Nat) : null.isWithin levels = true := by
  cases levels <;> rfl

@[simp] theorem isWithin_bool (levels : Nat) (b : Bool) : (bool b).isWithin levels = true := by
  cases levels <;> rfl

@[simp] theorem isWithin_ofInt (levels : Nat) (n : Int) : (ofInt n).isWithin levels = true := by
  cases levels <;> rfl

@[simp] theorem isWithin_ofString (levels : Nat) (s : String) :
    (ofString s).isWithin levels = true := by
  cases levels <;> rfl

@[simp] theorem isWithin_array (levels : Nat) (vs : List Json) :
    (array vs).isWithin (levels + 1) = vs.all (isWithin levels) := rfl

@[simp] theorem isWithin_ofMembers (levels : Nat) (ms : List (String × Json)) :
    (ofMembers ms).isWithin (levels + 1) = ms.all fun m => m.2.isWithin levels := by
  simp [ofMembers, isWithin, Function.comp_def]

end Json

/-! ### What is written -/

namespace Form

variable {α β : Type} (f : Form α)

@[simp] theorem via_write (back : β → α) (forth : α → Option β) (b : β) :
    (f.via back forth).write b = f.write (back b) := rfl

@[simp] theorem string_write (s : String) : string.write s = .ofString s := rfl

@[simp] theorem bool_write (b : Bool) : bool.write b = .bool b := rfl

@[simp] theorem uint16_write (n : UInt16) : uint16.write n = .ofInt n.toNat := rfl

@[simp] theorem uint32_write (n : UInt32) : uint32.write n = .ofInt n.toNat := rfl

@[simp] theorem named_write (all : List α) (name : α → String) (a : α) :
    (named all name).write a = .ofString (name a) := rfl

@[simp] theorem optional_write_none : f.optional.write none = .null := rfl

@[simp] theorem optional_write_some (a : α) : f.optional.write (some a) = f.write a := rfl

@[simp] theorem list_write (as : List α) : (list f).write as = .array (as.map f.write) := rfl

end Form

namespace Record

variable {α β : Type}

@[simp] theorem none_write (a : Unit) : none.write a = [] := rfl

@[simp] theorem required_write (name : String) (f : Form α) (a : α) :
    (required name f).write a = [(name, f.write a)] := rfl

@[simp] theorem optional_write (name : String) (f : Form α) (a : Option α) :
    (optional name f).write a = [(name, f.optional.write a)] := rfl

@[simp] theorem and_write (r : Record α) (s : Record β) (p : α × β) :
    (r.and s).write p = r.write p.1 ++ s.write p.2 := rfl

@[simp] theorem form_write (r : Record α) (a : α) : r.form.write a = .ofMembers (r.write a) := rfl

end Record

theorem Literal.toInt?_ofInt (n : Int) : (ofInt n).toInt? = some n := by
  have value : Text.Decimal.value (ofInt n).whole = n.natAbs := Text.Decimal.value_digits n.natAbs
  have isWhole : (ofInt n).fraction.isEmpty && (ofInt n).exponent.isNone := rfl
  rw [toInt?, if_pos isWhole, value]
  by_cases negative : n < 0
  · have nonzero : n.natAbs ≠ 0 := by omega
    have back : -(n.natAbs : Int) = n := by omega
    simp only [ofInt, negative, decide_true, if_true, if_neg nonzero, back]
  · have back : (n.natAbs : Int) = n := by omega
    simp only [ofInt, negative, decide_false, Bool.false_eq_true, if_false, back]

/-! ### Forms -/

/-- The form gives the value back: what it writes can be read from a text, and from that it reads
the value if it may enter enough levels. -/
structure Form.Returns {α : Type} (f : Form α) (a : α) : Prop where
  sound : (f.write a).Sound
  read : ∀ levels,
    f.read levels (f.write a) = if (f.write a).isWithin levels then some a else none

namespace Form

variable {α β : Type} {f : Form α}

/-- The text of the value is read as the value. -/
def Survives (f : Form α) (a : α) : Prop := f.ofText? (f.toText a) = some a

/-- A reader of texts may enter all levels of the value. -/
def Fits (f : Form α) (a : α) : Prop := (f.write a).isWithin levelLimit

/-- A value that the form gives back survives as text exactly if it has not too many levels. -/
theorem Returns.survives_iff {a : α} (returns : f.Returns a) : f.Survives a ↔ f.Fits a := by
  rw [Survives, Fits, ofText?, toText, Json.ofText?_toText returns.sound, Option.bind_some,
    returns.read]
  simp

/-- What is written without arrays and objects can be read at any level. -/
theorem Returns.of_flat {a : α} (sound : (f.write a).Sound)
    (flat : ∀ levels, (f.write a).isWithin levels)
    (read : ∀ levels, f.read levels (f.write a) = some a) : f.Returns a where
  sound := sound
  read levels := by rw [if_pos (flat levels), read]

theorem string_returns (s : String) : string.Returns s :=
  .of_flat (.text s) (fun levels => Json.isWithin_ofString levels s) fun _ => rfl

theorem bool_returns (b : Bool) : bool.Returns b :=
  .of_flat (.bool b) (fun levels => Json.isWithin_bool levels b) fun _ => rfl

theorem raw_returns {j : Json} (sound : j.Sound) (flat : ∀ levels, j.isWithin levels) :
    raw.Returns j :=
  .of_flat sound flat fun _ => rfl

theorem integer_returns {low high n : Int} (least : low ≤ n) (most : n ≤ high) :
    (integer low high).Returns n := by
  have flat (levels : Nat) : (Json.ofInt n).isWithin levels := Json.isWithin_ofInt levels n
  refine .of_flat (.number (Literal.isSound_ofInt n)) flat ?_
  simp [integer, Json.ofInt, Literal.toInt?_ofInt, least, most]

theorem named_returns {all : List α} {name : α → String} {a : α}
    (found : all.find? (fun b => name b == name a) = some a) : (named all name).Returns a := by
  refine .of_flat (.text (name a)) (fun levels => Json.isWithin_ofString levels (name a)) ?_
  intro levels
  have written : caseName? levels ((named all name).write a) = some (name a) := by
    cases levels <;> rfl
  simp only [named] at written ⊢
  simp [written, found]

theorem via_returns {back : β → α} {forth : α → Option β} {b : β} (returns : f.Returns (back b))
    (same : forth (back b) = some b) : (f.via back forth).Returns b where
  sound := returns.sound
  read levels := by
    have read : (f.via back forth).read levels (f.write (back b)) =
      (f.read levels (f.write (back b))).bind forth := rfl
    rw [via_write, read, returns.read]
    split
    · exact same
    · rfl

theorem uint8_returns (n : UInt8) : uint8.Returns n := by
  have most := n.toNat_lt
  exact via_returns (integer_returns (by omega) (by omega)) (by simp)

theorem uint16_returns (n : UInt16) : uint16.Returns n := by
  have most := n.toNat_lt
  exact via_returns (integer_returns (by omega) (by omega)) (by simp)

theorem uint32_returns (n : UInt32) : uint32.Returns n := by
  have most := n.toNat_lt
  exact via_returns (integer_returns (by omega) (by omega)) (by simp)

theorem uint64_returns (n : UInt64) : uint64.Returns n := by
  have most := n.toNat_lt
  exact via_returns (integer_returns (by omega) (by omega)) (by simp)

theorem int8_returns (n : Int8) : int8.Returns n :=
  via_returns (integer_returns n.le_toInt n.toInt_le) (by simp)

theorem int16_returns (n : Int16) : int16.Returns n :=
  via_returns (integer_returns n.le_toInt n.toInt_le) (by simp)

theorem int32_returns (n : Int32) : int32.Returns n :=
  via_returns (integer_returns n.le_toInt n.toInt_le) (by simp)

theorem int64_returns (n : Int64) : int64.Returns n :=
  via_returns (integer_returns n.le_toInt n.toInt_le) (by simp)

theorem optional_returns {a : Option α} (returns : ∀ b ∈ a, f.Returns b)
    (present : ∀ b ∈ a, f.write b ≠ .null) : f.optional.Returns a := by
  cases a with
  | none => exact ⟨.null, fun levels => by simp [optional]⟩
  | some b =>
    refine ⟨(returns b rfl).sound, fun levels => ?_⟩
    rw [optional_write_some]
    simp [optional, present b rfl, (returns b rfl).read]

theorem mapM_write {as : List α} (returns : ∀ a ∈ as, f.Returns a) (levels : Nat) :
    (as.map f.write).mapM (f.read levels) =
      if (as.map f.write).all (Json.isWithin levels) then some as else none := by
  induction as with
  | nil => rfl
  | cons a as ih =>
    have first := (returns a List.mem_cons_self).read levels
    have others := ih fun b member => returns b (List.mem_cons_of_mem _ member)
    rw [List.map_cons, List.mapM_cons, first, others, List.all_cons]
    cases (f.write a).isWithin levels
    · rfl
    · cases (as.map f.write).all (Json.isWithin levels) <;> rfl

theorem list_returns {as : List α} (returns : ∀ a ∈ as, f.Returns a) : (list f).Returns as where
  sound := .array fun v member => by
    obtain ⟨a, listed, rfl⟩ := List.mem_map.mp member
    exact (returns a listed).sound
  read levels := by
    cases levels with
    | zero => rfl
    | succ levels => exact mapM_write returns levels

end Form

/-! ### Records -/

/-- The record gives the value back: from slots that hold the members that it writes, it reads the
value if the levels of all of them may be entered. -/
structure Record.Returns {α : Type} (r : Record α) (a : α) : Prop where
  names : (r.write a).map Prod.fst = r.names
  sound : ∀ m ∈ r.write a, m.2.Sound
  read : ∀ levels slots, (∀ m ∈ r.write a, slots m.1 = .held m.2) →
    r.read levels slots =
      if (r.write a).all (fun m => m.2.isWithin levels) then some a else .none

namespace Record

variable {α β : Type} {r : Record α} {s : Record β}

theorem none_returns : none.Returns () where
  names := rfl
  sound := by simp [none]
  read _ _ _ := rfl

theorem required_returns (name : String) {f : Form α} {a : α} (returns : f.Returns a) :
    (required name f).Returns a where
  names := rfl
  sound := by simpa [required] using returns.sound
  read levels slots held := by
    have here : slots name = .held (f.write a) := held _ List.mem_cons_self
    rw [required_write]
    simp [required, here, returns.read]

theorem optional_returns (name : String) {f : Form α} {a : Option α}
    (returns : f.optional.Returns a) : (optional name f).Returns a where
  names := rfl
  sound := by simpa [optional] using returns.sound
  read levels slots held := by
    have here : slots name = .held (f.optional.write a) := held _ List.mem_cons_self
    rw [optional_write]
    simp [optional, here, returns.read]

theorem and_returns {a : α} {b : β} (first : r.Returns a) (second : s.Returns b) :
    (r.and s).Returns (a, b) where
  names := by
    simp [and, first.names, second.names]
  sound m member := by
    rcases List.mem_append.mp member with member | member
    · exact first.sound m member
    · exact second.sound m member
  read levels slots held := by
    rw [and_write] at held ⊢
    have left := first.read levels slots fun m member =>
      held m (List.mem_append_left _ member)
    have right := second.read levels slots fun m member =>
      held m (List.mem_append_right _ member)
    simp only [and, left, right, List.all_append]
    cases (r.write a).all fun m => m.2.isWithin levels
    · rfl
    · cases (s.write b).all fun m => m.2.isWithin levels <;> rfl

theorem memberSlot_of_mem {members : List (String × Json)} (distinct : (members.map Prod.fst).Nodup)
    {m : String × Json} (member : m ∈ members) :
    memberSlot (members.map fun (name, value) => (some name, value)) m.1 = .held m.2 := by
  have found : (members.map fun (name, value) => (some name, value)).find?
      (fun n => n.1 == some m.1) = some (some m.1, m.2) := by
    induction members with
    | nil => cases member
    | cons n members ih =>
      rw [List.map_cons, List.nodup_cons] at distinct
      rw [List.map_cons]
      rcases List.mem_cons.mp member with rfl | later
      · rw [List.find?_cons_of_pos (by simp)]
      · have other : n.1 ≠ m.1 := by
          intro same
          exact distinct.1 (same ▸ List.mem_map_of_mem later)
        rw [List.find?_cons_of_neg (by simpa using other), ih distinct.2 later]
  rw [memberSlot, found]

theorem hasNoRepeats_of_nodup {members : List (String × Json)}
    (distinct : (members.map Prod.fst).Nodup) (names : List String) :
    hasNoRepeats names (members.map fun (name, value) => (some name, value)) = true := by
  refine List.all_eq_true.mpr fun name _ => decide_eq_true ?_
  have once := List.nodup_iff_count.mp distinct name
  rw [List.count, List.countP_map] at once
  rw [List.countP_map]
  exact once

theorem form_returns {a : α} (returns : r.Returns a) (distinct : r.names.Nodup) :
    r.form.Returns a where
  sound := by
    refine .object (fun m member => ?_) fun m member => ?_
    all_goals obtain ⟨n, written, rfl⟩ := List.mem_map.mp member
    · rfl
    · exact returns.sound n written
  read levels := by
    rw [form_write]
    cases levels with
    | zero => rfl
    | succ levels =>
      have distinct : ((r.write a).map Prod.fst).Nodup := returns.names ▸ distinct
      have named : ((r.write a).map fun (name, value) => (some name, value)).all
          (fun m => m.1.isSome) = true := by simp
      have read := returns.read levels _ fun m member => memberSlot_of_mem distinct member
      rw [Json.isWithin_ofMembers, ← read]
      simp only [form, Json.ofMembers, named, hasNoRepeats_of_nodup distinct, Bool.and_self,
        if_true]

end Record

end OpcUa
