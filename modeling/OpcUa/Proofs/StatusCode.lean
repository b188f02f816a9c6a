import OpcUa.Failure

/-!
Status codes fall into three ranges, one for each severity. The tests for a severity, the names, the
failures that codes are thrown as and the display texts all go by the same division.
-/

namespace OpcUa

/-! ### Codes as failures -/

theorem throwIfBad_bad {code : StatusCode} (isBad : code.isBad = true) :
    code.throwIfBad = .error (.ofStatus code) := by
  unfold StatusCode.throwIfBad
  rw [if_pos isBad]

theorem throwIfBad_fine {code : StatusCode} (isFine : ¬ code.isBad = true) :
    code.throwIfBad = .ok () := by
  unfold StatusCode.throwIfBad
  rw [if_neg isFine]

theorem status_ofStatus (code : StatusCode) : (Failure.ofStatus code).status = code := by
  unfold Failure.ofStatus
  split
  next lost => exact lost.symm
  next => rfl

theorem ofStatus_disconnected (code : StatusCode) :
    Failure.ofStatus code = .disconnected ↔ code = .badDisconnect := by
  unfold Failure.ofStatus
  split
  next lost => simp [lost]
  next other => simp [other]

namespace StatusCode

theorem throwIfBad_error_iff {c : StatusCode} {e : Failure} :
    c.throwIfBad = .error e ↔ c.isBad ∧ e = .ofStatus c := by
  by_cases isBad : c.isBad = true
  · rw [throwIfBad_bad isBad]
    simp [isBad, eq_comm]
  · rw [throwIfBad_fine isBad]
    simp [isBad]

/-! ### The ranges -/

theorem toNat_leading (bits : UInt32) : (bits >>> 30).toNat = bits.toNat / 0x40000000 := by
  simp [UInt32.toNat_shiftRight, Nat.shiftRight_eq_div_pow]

theorem leading_eq_zero_iff {bits : UInt32} : bits >>> 30 = 0 ↔ bits < 0x40000000 := by
  rw [← UInt32.toNat_inj, toNat_leading, UInt32.lt_iff_toNat_lt]
  simp only [UInt32.reduceToNat]
  omega

theorem leading_eq_one_iff {bits : UInt32} :
    bits >>> 30 = 1 ↔ 0x40000000 ≤ bits ∧ bits < 0x80000000 := by
  rw [← UInt32.toNat_inj, toNat_leading, UInt32.lt_iff_toNat_lt, UInt32.le_iff_toNat_le]
  simp only [UInt32.reduceToNat]
  omega

theorem leading_ge_two_iff {bits : UInt32} : bits >>> 30 ≥ 2 ↔ 0x80000000 ≤ bits := by
  rw [ge_iff_le, UInt32.le_iff_toNat_le, toNat_leading, UInt32.le_iff_toNat_le]
  simp only [UInt32.reduceToNat]
  omega

variable {c : StatusCode}

theorem isGood_iff : c.isGood ↔ c.bits < 0x40000000 := by
  rw [isGood, beq_iff_eq, leading_eq_zero_iff]

theorem isUncertain_iff : c.isUncertain ↔ 0x40000000 ≤ c.bits ∧ c.bits < 0x80000000 := by
  rw [isUncertain, beq_iff_eq, leading_eq_one_iff]

theorem isBad_iff : c.isBad ↔ 0x80000000 ≤ c.bits := by
  rw [isBad, decide_eq_true_iff, leading_ge_two_iff]

theorem severity_cases (c : StatusCode) :
    (c.severity = .good ∧ c.bits < 0x40000000) ∨
    (c.severity = .uncertain ∧ 0x40000000 ≤ c.bits ∧ c.bits < 0x80000000) ∨
    (c.severity = .bad ∧ 0x80000000 ≤ c.bits) := by
  unfold severity Severity.ofBits
  simp only [leading_eq_zero_iff, leading_eq_one_iff]
  by_cases low : c.bits < 0x40000000
  · exact .inl ⟨if_pos low, low⟩
  · have above := UInt32.not_lt.mp low
    rw [if_neg low]
    by_cases middle : c.bits < 0x80000000
    · exact .inr (.inl ⟨if_pos ⟨above, middle⟩, above, middle⟩)
    · have high := UInt32.not_lt.mp middle
      exact .inr (.inr ⟨if_neg fun both => middle both.2, high⟩)

/-- What the tests for the three severities say of a code. -/
theorem flags_eq (c : StatusCode) :
    (c.isGood = true ↔ c.severity = .good) ∧ (c.isUncertain = true ↔ c.severity = .uncertain) ∧
      (c.isBad = true ↔ c.severity = .bad) := by
  rw [isGood_iff, isUncertain_iff, isBad_iff]
  rcases severity_cases c with ⟨named, low⟩ | ⟨named, above, below⟩ | ⟨named, high⟩
  all_goals
    rw [named]
    simp only [UInt32.lt_iff_toNat_lt, UInt32.le_iff_toNat_le, UInt32.reduceToNat] at *
    grind

/-! ### Names and display texts -/

theorem standardNames_begin :
    standardNames.all fun entry =>
      (Severity.ofBits entry.1).text.toList.isPrefixOf entry.2.toList := by
  decide +kernel

theorem name_begins (c : StatusCode) : ∃ rest, c.name = c.severity.text ++ rest := by
  unfold name
  cases listed : standardNames.lookup c.bits with
  | none => exact ⟨"", by simp⟩
  | some name =>
    obtain ⟨before, after, entries, -⟩ := List.lookup_eq_some_iff.mp listed
    have member : (c.bits, name) ∈ standardNames := by simp [entries]
    have begins := List.all_eq_true.mp standardNames_begin _ member
    obtain ⟨rest, same⟩ := List.isPrefixOf_iff_prefix.mp begins
    refine ⟨String.ofList rest, String.toList_inj.mp ?_⟩
    simp [severity, ← same]

theorem hex_inj {c d : StatusCode} (same : c.hex.toList = d.hex.toList) : c = d := by
  have read (e : StatusCode) :
      Text.Hex.value? (Text.Hex.fixed .upper 8 e.bits.toNat) = some e.bits.toNat :=
    Text.Hex.value?_fixed .upper e.bits.toNat_lt
  simp only [hex, String.toList_append, String.toList_ofList, List.append_cancel_left_eq] at same
  have bits : some c.bits.toNat = some d.bits.toNat := by
    rw [← read c, same, read d]
  exact congrArg StatusCode.mk (UInt32.toNat_inj.mp (Option.some.inj bits))

/-- Names can be shared, and stand in front; the digits behind them have a fixed width. -/
theorem text_inj {c d : StatusCode} (same : c.text = d.text) : c = d := by
  have same := congrArg String.toList same
  have width (e : StatusCode) : e.hex.toList.length = 10 := by
    simp [hex, Text.Hex.length_fixed]
  simp only [text, String.toList_append, List.append_cancel_right_eq] at same
  have digits := List.append_inj_right' same ((width c).trans (width d).symm)
  exact hex_inj digits

/-- The three tests, the name, and whether and how a code is thrown all follow its severity, and no
two codes have the same display text. -/
theorem tests_names_and_failures_follow_severity (c : StatusCode) :
    (c.isGood = true ↔ c.severity = .good) ∧ (c.isUncertain = true ↔ c.severity = .uncertain) ∧
      (c.isBad = true ↔ c.severity = .bad) ∧ [c.isGood, c.isUncertain, c.isBad].count true = 1 ∧
      (∃ rest, c.name = c.severity.text ++ rest) ∧
      ((∃ e, c.throwIfBad = .error e) ↔ c.isBad = true) ∧
      (∀ e, c.throwIfBad = .error e →
        e.status = c ∧ (e = .disconnected ↔ c = .badDisconnect)) ∧
      (Failure.ofStatus c).status = c ∧
      ∀ d : StatusCode, d.text = c.text → d = c := by
  obtain ⟨isGood, isUncertain, isBad⟩ := flags_eq c
  refine ⟨isGood, isUncertain, isBad, ?_, name_begins c, ?_, ?_, status_ofStatus c,
    fun _ => text_inj⟩
  · cases named : c.severity
    all_goals
      simp only [named, reduceCtorEq, iff_true, iff_false, Bool.not_eq_true] at isGood isUncertain
      simp only [named, reduceCtorEq, iff_true, iff_false, Bool.not_eq_true] at isBad
      rw [isGood, isUncertain, isBad]
      rfl
  · simp [throwIfBad_error_iff]
  · intro e thrown
    obtain ⟨-, rfl⟩ := throwIfBad_error_iff.mp thrown
    exact ⟨status_ofStatus c, ofStatus_disconnected c⟩

/-- The code of a lost connection is bad, is thrown as the failure that carries no code, and has a
display text of its own. -/
theorem lost_connection_follows_severity :
    StatusCode.badDisconnect.severity = .bad ∧
      StatusCode.badDisconnect.throwIfBad = .error .disconnected ∧
      Failure.disconnected.status = .badDisconnect ∧
      ∀ d : StatusCode, d.text = StatusCode.badDisconnect.text → d = .badDisconnect := by
  obtain ⟨-, -, isBad, -, -, fails, thrown, -, alone⟩ :=
    tests_names_and_failures_follow_severity .badDisconnect
  have bad : StatusCode.badDisconnect.isBad = true := by decide
  obtain ⟨e, failed⟩ := fails.mpr bad
  obtain ⟨status, lost⟩ := thrown e failed
  obtain rfl := lost.mpr rfl
  exact ⟨isBad.mp bad, failed, status, alone⟩

end StatusCode

end OpcUa
