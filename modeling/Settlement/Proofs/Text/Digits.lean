import Settlement.Text.Digits

/-! Numbers are read back from the digits that are written for them. -/
namespace Settlement
namespace Text

attribute [local instance (high)] instPowNat

variable {n width : Nat}

theorem digitValue?_digitChar : ∀ d < 10, digitValue? (digitChar d) = some d := by decide

theorem hexValue?_digitChar : ∀ d < 16, hexValue? (digitChar d) = some d := by decide

theorem isDigit_digitChar (d : Nat) (h : d < 10) : isDigit (digitChar d) = true := by
  rw [isDigit, digitValue?_digitChar d h, Option.isSome_some]

theorem fixedDigits_add (base front back n : Nat) :
    fixedDigits base (front + back) n = fixedDigits base front (n / base ^ back) ++ fixedDigits base back n := by
  induction back generalizing n with
  | zero => simp [fixedDigits]
  | succ back ih =>
    rw [← Nat.add_assoc, fixedDigits, ih, fixedDigits, List.append_assoc, Nat.div_div_eq_div_mul, Nat.pow_succ']

theorem fixedDigits_succ (base width n : Nat) :
    fixedDigits base (width + 1) n = digitChar (n / base ^ width % base) :: fixedDigits base width n := by
  rw [Nat.add_comm, fixedDigits_add]
  rfl

theorem all_isDigit_fixedDigits (width n : Nat) : ∀ c ∈ fixedDigits 10 width n, isDigit c = true := by
  induction width generalizing n with
  | zero => exact nofun
  | succ width ih =>
    intro c hc
    rw [fixedDigits, List.mem_append, List.mem_singleton] at hc
    rcases hc with hc | rfl
    · exact ih _ c hc
    · exact isDigit_digitChar _ (Nat.mod_lt _ (by decide))

theorem takeWhile_fixedDigits (width n : Nat) (rest : List Char) :
    (fixedDigits 10 width n ++ rest).takeWhile isDigit = fixedDigits 10 width n ++ rest.takeWhile isDigit :=
  List.takeWhile_append_of_pos (all_isDigit_fixedDigits width n)

theorem readDigits_concat (value? : Char → Option Nat) (base : Nat) (cs : List Char) (c : Char) :
    readDigits value? base (cs ++ [c]) =
      (readDigits value? base cs).bind fun n => (value? c).map fun d => base * n + d := by
  rw [readDigits, List.foldl_append]
  rfl

theorem readDigits_fixedDigits {value? : Char → Option Nat} {base : Nat} (positive : 0 < base)
    (hvalue : ∀ d < base, value? (digitChar d) = some d) (width n : Nat) :
    readDigits value? base (fixedDigits base width n) = some (n % base ^ width) := by
  induction width generalizing n with
  | zero => simp [fixedDigits, readDigits, Nat.mod_one]
  | succ width ih =>
    rw [fixedDigits, readDigits_concat, ih, hvalue _ (Nat.mod_lt n positive), Nat.pow_succ', Nat.mod_mul]
    simp [Nat.add_comm]

theorem fixedDigits_isEmpty (base : Nat) (positive : 0 < width) (n : Nat) :
    (fixedDigits base width n).isEmpty = false := by
  rw [List.isEmpty_eq_false_iff_exists_mem]
  exact List.exists_mem_of_length_pos (by rwa [fixedDigits_length])

theorem readDecimal?_fixedDigits (positive : 0 < width) (h : n < 10 ^ width) :
    readDecimal? (fixedDigits 10 width n) = some n := by
  rw [readDecimal?, fixedDigits_isEmpty 10 positive, if_neg (by decide),
    readDigits_fixedDigits (by decide) digitValue?_digitChar, Nat.mod_eq_of_lt h]

theorem readHex?_fixedDigits (positive : 0 < width) (h : n < 16 ^ width) :
    readHex? (fixedDigits 16 width n) = some n := by
  rw [readHex?, fixedDigits_isEmpty 16 positive, if_neg (by decide),
    readDigits_fixedDigits (by decide) hexValue?_digitChar, Nat.mod_eq_of_lt h]

theorem digitCount_pos (n : Nat) : 0 < digitCount n := Nat.length_toDigits_pos

theorem lt_pow_digitCount (n : Nat) : n < 10 ^ digitCount n :=
  (Nat.length_toDigits_le_iff (by decide) (digitCount_pos n)).mp (Nat.le_refl _)

theorem pow_le_of_lt_digitCount (positive : 0 < width) (h : width < digitCount n) : 10 ^ width ≤ n :=
  Nat.le_of_not_lt fun hlt => Nat.not_le_of_lt h ((Nat.length_toDigits_le_iff (by decide) positive).mpr hlt)

theorem lt_pow_max_digitCount (width n : Nat) : n < 10 ^ max width (digitCount n) :=
  Nat.lt_of_lt_of_le (lt_pow_digitCount n) (Nat.pow_le_pow_right (by decide) (Nat.le_max_right _ _))

end Text
end Settlement
