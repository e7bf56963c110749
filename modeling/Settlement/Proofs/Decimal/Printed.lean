import Settlement.Decimal.Parser
import Settlement.Decimal.Printer
import Settlement.Proofs.Text.Digits

/-! A decimal is read back from its written form, with all its places. Only a zero loses its minus sign. -/
namespace Settlement
namespace Decimal

attribute [local instance (high)] instPowNat
open Text

variable {coefficient scale n : Nat} {started : Bool}

/-- The same number with the same places, where a zero has no sign. -/
def plain (d : Decimal) : Decimal := { d with minusZero := false, coefficient_of_minusZero := nofun }

theorem append_digit (c n width : Nat) :
    10 * (c * 10 ^ width + n / 10 % 10 ^ width) + n % 10 = c * 10 ^ (width + 1) + n % 10 ^ (width + 1) := by
  rw [Nat.pow_succ', Nat.mod_mul, Nat.mul_left_comm c 10]
  omega

theorem readWhole_fixedDigits (width : Nat) (rest : List Char)
    (fits : coefficient * 10 ^ width + n % 10 ^ width < 2 ^ (96 : Nat)) :
    readWhole coefficient started (fixedDigits 10 width n ++ rest) =
      readWhole (coefficient * 10 ^ width + n % 10 ^ width) (started || decide (0 < width)) rest := by
  induction width generalizing n rest with
  | zero => simp [fixedDigits, Nat.mod_one]
  | succ width ih =>
    rw [← append_digit] at fits ⊢
    rw [fixedDigits, List.append_assoc, ih _ (by omega), List.singleton_append, readWhole,
      digitValue?_digitChar _ (Nat.mod_lt n (by decide))]
    exact (if_pos fits).trans (by simp)

theorem readPlaces_fixedDigits (width : Nat) (rest : List Char) (short : scale + width ≤ 28)
    (fits : coefficient * 10 ^ width + n % 10 ^ width < 2 ^ (96 : Nat)) :
    readPlaces coefficient scale started (fixedDigits 10 width n ++ rest) =
      readPlaces (coefficient * 10 ^ width + n % 10 ^ width) (scale + width) (started || decide (0 < width)) rest := by
  induction width generalizing n rest with
  | zero => simp [fixedDigits, Nat.mod_one]
  | succ width ih =>
    rw [← append_digit] at fits ⊢
    rw [fixedDigits, List.append_assoc, ih _ (by omega) (by omega), List.singleton_append, readPlaces,
      digitValue?_digitChar _ (Nat.mod_lt n (by decide))]
    exact (if_pos ⟨by omega, fits⟩).trans (by simp [Nat.add_assoc])

theorem writeDigits_eq (coefficient scale : Nat) :
    ∃ width, 0 < width ∧ coefficient / 10 ^ scale < 10 ^ width ∧
      writeDigits coefficient scale = fixedDigits 10 width (coefficient / 10 ^ scale) ++
        if scale = 0 then [] else '.' :: fixedDigits 10 scale coefficient := by
  obtain ⟨width, hwidth⟩ : ∃ width, max (scale + 1) (digitCount coefficient) = width + scale :=
    ⟨max (scale + 1) (digitCount coefficient) - scale, by omega⟩
  have hlt : coefficient < 10 ^ (width + scale) := hwidth ▸ lt_pow_max_digitCount _ _
  refine ⟨width, by omega, Nat.div_lt_of_lt_mul (by rwa [Nat.mul_comm, ← Nat.pow_add]), ?_⟩
  simp only [writeDigits, paddedDigits, hwidth, fixedDigits_length, Nat.add_sub_cancel]
  rw [fixedDigits_add, List.take_left' (fixedDigits_length _ _ _), List.drop_left' (fixedDigits_length _ _ _)]
  split <;> simp

theorem readWhole_writeDigits (fits : coefficient < 2 ^ (96 : Nat)) (short : scale ≤ 28) :
    readWhole 0 false (writeDigits coefficient scale) = some (coefficient, scale) := by
  obtain ⟨width, hpos, hlt, heq⟩ := writeDigits_eq coefficient scale
  have hparts : coefficient / 10 ^ scale * 10 ^ scale + coefficient % 10 ^ scale = coefficient :=
    Nat.div_add_mod' coefficient (10 ^ scale)
  have hwhole : coefficient / 10 ^ scale < 2 ^ (96 : Nat) := Nat.lt_of_le_of_lt (Nat.div_le_self _ _) fits
  rw [heq, readWhole_fixedDigits _ _ (by rwa [Nat.mod_eq_of_lt hlt, Nat.zero_mul, Nat.zero_add]),
    Nat.mod_eq_of_lt hlt, Nat.zero_mul, Nat.zero_add, decide_eq_true hpos]
  split
  · next h =>
    subst h
    simp [readWhole]
  · show readPlaces (coefficient / 10 ^ scale) 0 true (fixedDigits 10 scale coefficient) = _
    rw [← List.append_nil (fixedDigits 10 scale coefficient),
      readPlaces_fixedDigits scale [] (by omega) (hparts.symm ▸ fits), hparts, Nat.zero_add]
    rfl

theorem readPlain?_of_readWhole {cs : List Char} {m : Magnitude} (h : readWhole 0 false cs = some m) :
    readPlain? cs = ofMagnitude? false m := by
  unfold readPlain?
  split
  · cases h
  · cases h
  · rw [h]
    rfl

theorem ofMagnitude?_natAbs {d : Decimal} {negative : Bool} (h : negative = decide (d.coefficient < 0 ∨ d.minusZero)) :
    ofMagnitude? negative (d.coefficient.natAbs, d.scale) = some d.plain := by
  refine ofParts?_eq_some.mpr ⟨?_, rfl, rfl⟩
  have hzero := d.coefficient_of_minusZero
  show d.coefficient = _
  split
  · next hnegative =>
    rw [h, decide_eq_true_iff] at hnegative
    rcases hnegative with hlt | hminus
    · omega
    · rw [hzero hminus]
      rfl
  · next hnegative =>
    rw [h, decide_eq_true_iff] at hnegative
    omega

theorem ofString?_toString (d : Decimal) : ofString? d.toString = some d.plain := by
  have hwhole := readWhole_writeDigits d.coefficient_lt d.scale_le
  have hplain : readPlain? d.write = some d.plain := by
    unfold write
    split
    · next hnegative =>
      rw [← ofMagnitude?_natAbs (d := d) (decide_eq_true hnegative).symm]
      show (readWhole 0 false (writeDigits d.coefficient.natAbs d.scale)).bind _ = _
      rw [hwhole]
      rfl
    · next hnegative =>
      rw [← ofMagnitude?_natAbs (d := d) (decide_eq_false hnegative).symm]
      exact readPlain?_of_readWhole hwhole
  rw [Decimal.toString, ofString?, String.toList_ofList, read?, hplain]
  rfl

end Decimal
end Settlement
