import OpcUa.NodeId

/-!
Node identifiers are told apart by their display texts. Texts are written as they are, without
escapes: the first letter tells whether a namespace or an identifier comes first, and of which kind
it is, and the digits of a number end where something else stands. So nothing is read in two ways.
-/

namespace OpcUa

open Text

/-- Numbers with the same character behind them that is no digit, whatever follows it. -/
theorem Text.Decimal.digits_append_inj {m n : Nat} {stop : Char} {xs ys : List Char}
    (stops : stop.isDigit = false)
    (same : Decimal.digits m ++ stop :: xs = Decimal.digits n ++ stop :: ys) : m = n ∧ xs = ys := by
  have split (k : Nat) (rest : List Char) :=
    @Decimal.run_append Char.isDigit (Decimal.digits k) (stop :: rest)
      (fun _ => Decimal.isDigit_of_mem_digits) (by simpa using stops)
  obtain ⟨run, rest⟩ := split m xs
  rw [same, (split n ys).1] at run
  rw [same, (split n ys).2] at rest
  exact ⟨Decimal.digits_inj run.symm, (List.cons.inj rest).2.symm⟩

namespace Identifier

theorem toList_display_numeric (value : UInt32) :
    (numeric value).display.toList = 'i' :: '=' :: Decimal.digits value.toNat := by
  simp [display, Decimal.ofNat]

theorem toList_display_text (value : String) :
    (text value).display.toList = 's' :: '=' :: value.toList := by
  simp [display]

theorem display_inj {x y : Identifier} (same : x.display.toList = y.display.toList) : x = y := by
  cases x with
  | numeric m =>
    cases y with
    | numeric n =>
      simp only [toList_display_numeric, List.cons.injEq, true_and] at same
      rw [UInt32.toNat_inj.mp (Decimal.digits_inj same)]
    | text t => simp [toList_display_numeric, toList_display_text] at same
  | text s =>
    cases y with
    | numeric n => simp [toList_display_numeric, toList_display_text] at same
    | text t =>
      simp only [toList_display_text, List.cons.injEq, true_and] at same
      rw [String.toList_inj.mp same]

/-- No identifier is displayed like the beginning of a namespace. -/
theorem display_ne (x : Identifier) (rest : List Char) : x.display.toList ≠ 'n' :: rest := by
  cases x with
  | numeric value => simp [toList_display_numeric]
  | text value => simp [toList_display_text]

end Identifier

namespace NodeId

theorem toList_display_standard (x : Identifier) :
    (NodeId.mk 0 x).display.toList = x.display.toList := by
  simp [display]

theorem toList_display_indexed {index : UInt16} (nonzero : index ≠ 0) (x : Identifier) :
    (NodeId.mk index x).display.toList =
      'n' :: 's' :: '=' :: (Decimal.digits index.toNat ++ ';' :: x.display.toList) := by
  simp [display, nonzero, Decimal.ofNat]

/-- Two node identifiers have the same display text only if they are the same, whatever characters
are in their texts. -/
theorem display_eq_iff (a b : NodeId) : a.display = b.display ↔ a = b := by
  constructor
  · intro same
    have same := congrArg String.toList same
    obtain ⟨i, x⟩ := a
    obtain ⟨j, y⟩ := b
    by_cases first : i = 0
    · by_cases second : j = 0
      · rw [first, second] at same ⊢
        rw [toList_display_standard, toList_display_standard] at same
        rw [Identifier.display_inj same]
      · rw [first, toList_display_standard, toList_display_indexed second] at same
        exact absurd same (x.display_ne _)
    · by_cases second : j = 0
      · rw [second, toList_display_indexed first, toList_display_standard] at same
        exact absurd same.symm (y.display_ne _)
      · rw [toList_display_indexed first, toList_display_indexed second] at same
        simp only [List.cons.injEq, true_and] at same
        obtain ⟨indices, identifiers⟩ := Decimal.digits_append_inj rfl same
        rw [UInt16.toNat_inj.mp indices, Identifier.display_inj identifiers]
  · rintro rfl
    rfl

/-- A text that reads like an identifier in another namespace. -/
example : (NodeId.mk 0 (.text "x;ns=1;i=5")).display ≠ (NodeId.numeric 1 5).display := by decide

end NodeId

end OpcUa
