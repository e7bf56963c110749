import Mathlib.Algebra.Order.Floor.Ring
import Mathlib.Data.Rat.Floor
import Settlement.Proofs.Decimal.Monotone

/-! Rounding to fewer places as rounding of numbers: a half up or to the even neighbour, to a multiple of the smallest
unit that is nearest, or toward zero, by less than that unit. A sum keeps its first digits when it is rounded. -/
namespace Settlement
namespace Rounding

theorem halfAwayFromZero_near (n : Nat) {d : Nat} (hd : 0 < d) :
    2 * (halfAwayFromZero.divide n d * d) ≤ 2 * n + d ∧ 2 * n < 2 * (halfAwayFromZero.divide n d * d) + d := by
  have hn := Nat.div_add_mod n d
  have hr := Nat.mod_lt n hd
  rw [Nat.mul_comm _ d]
  simp only [divide]
  split
  case isTrue =>
    rw [Nat.mul_add, Nat.mul_one]
    omega
  case isFalse => omega

theorem halfAwayFromZero_eq_floor (n : Nat) {d : Nat} (hd : 0 < d) :
    (halfAwayFromZero.divide n d : ℤ) = ⌊(n / d + 1 / 2 : ℚ)⌋ := by
  obtain ⟨hle, hlt⟩ := halfAwayFromZero_near n hd
  have hdq : (0 : ℚ) < d := Nat.cast_pos.mpr hd
  have hleq : (2 * (halfAwayFromZero.divide n d * d) : ℚ) ≤ 2 * n + d := by exact_mod_cast hle
  have hltq : (2 * n : ℚ) < 2 * (halfAwayFromZero.divide n d * d) + d := by exact_mod_cast hlt
  refine (Int.floor_eq_iff.mpr ⟨?_, ?_⟩).symm
  · rw [← sub_le_iff_le_add, le_div_iff₀ hdq, sub_mul]
    push_cast
    linarith
  · rw [← lt_sub_iff_add_lt, div_lt_iff₀ hdq, sub_mul, add_mul]
    push_cast
    linarith

theorem abs_dropDigits_sub (mode : Rounding) (c : Int) (k : Nat) :
    |mode.dropDigits c k * 10 ^ k - c| = |(mode.divide c.natAbs (10 ^ k) * 10 ^ k - c.natAbs : ℤ)| := by
  have hsign : mode.dropDigits c k * 10 ^ k - c =
      c.sign * (mode.divide c.natAbs (10 ^ k) * 10 ^ k - c.natAbs) := by
    rw [dropDigits, mul_sub, Int.sign_mul_natAbs, mul_assoc]
  rw [hsign, abs_mul]
  rcases eq_or_ne c 0 with rfl | hc
  · have hzero := divide_mul mode 0 (Nat.pow_pos (n := k) (show 0 < 10 by decide))
    rw [Nat.zero_mul] at hzero
    simp [hzero]
  · rw [Int.abs_sign_of_ne_zero hc, one_mul]

theorem abs_dropDigits_towardZero_lt (c : Int) (k : Nat) : |towardZero.dropDigits c k * 10 ^ k - c| < 10 ^ k := by
  have hn : ((c.natAbs / 10 ^ k : Nat) : Int) * 10 ^ k + (c.natAbs % 10 ^ k : Nat) = c.natAbs := by
    exact_mod_cast Nat.div_add_mod' c.natAbs (10 ^ k)
  have hr : ((c.natAbs % 10 ^ k : Nat) : Int) < 10 ^ k := by
    exact_mod_cast Nat.mod_lt c.natAbs (Nat.pow_pos (by decide))
  rw [abs_dropDigits_sub, divide, abs_lt]
  omega

theorem abs_dropDigits_halfToEven_le (c : Int) (k : Nat) :
    2 * |halfToEven.dropDigits c k * 10 ^ k - c| ≤ 10 ^ k := by
  obtain ⟨hlow, hhigh⟩ := halfToEven_near c.natAbs (Nat.pow_pos (n := k) (show 0 < 10 by decide))
  have hlow' : (2 * c.natAbs : ℤ) ≤ 2 * (10 ^ k * halfToEven.divide c.natAbs (10 ^ k)) + 10 ^ k := by
    exact_mod_cast hlow
  have hhigh' : (2 * (10 ^ k * halfToEven.divide c.natAbs (10 ^ k)) : ℤ) ≤ 2 * c.natAbs + 10 ^ k := by
    exact_mod_cast hhigh
  rw [abs_dropDigits_sub, mul_comm (halfToEven.divide _ _ : ℤ)]
  rcases abs_cases (10 ^ k * halfToEven.divide c.natAbs (10 ^ k) - c.natAbs : ℤ) with ⟨habs, -⟩ | ⟨habs, -⟩ <;>
    rw [habs] <;> linarith

end Rounding

namespace Decimal

/-! ## Grids -/

theorem MultipleOf.mul {s t : Nat} {p q : ℚ} (hp : MultipleOf s p) (hq : MultipleOf t q) :
    MultipleOf (s + t) (p * q) := by
  obtain ⟨m, rfl⟩ := hp
  obtain ⟨n, rfl⟩ := hq
  exact ⟨m * n, by rw [div_mul_div_comm, pow_add]; push_cast; rfl⟩

theorem MultipleOf.mono {s t : Nat} {q : ℚ} (h : MultipleOf s q) (hst : s ≤ t) : MultipleOf t q := by
  obtain ⟨n, rfl⟩ := h
  obtain ⟨k, rfl⟩ := Nat.exists_eq_add_of_le hst
  refine ⟨n * 10 ^ k, ?_⟩
  rw [pow_add]
  push_cast
  field_simp

theorem MultipleOf.div_hundred {s : Nat} {q : ℚ} (h : MultipleOf s q) : MultipleOf (s + 2) (q / 100) := by
  obtain ⟨n, rfl⟩ := h
  refine ⟨n, ?_⟩
  rw [pow_add, div_div]
  norm_num

theorem multipleOf_toRat (d : Decimal) {places : Nat} (h : d.scale ≤ places) : MultipleOf places d.toRat :=
  ⟨_, (d.coefficientAt_div h).symm⟩

/-! ## Half up -/

/-- The multiple of `10 ^ -places` that is nearest to the number; a half is rounded up. -/
def halfUp (places : Nat) (q : ℚ) : ℚ := ⌊q * 10 ^ places + 1 / 2⌋ / 10 ^ places

theorem halfUp_multipleOf (places : Nat) (q : ℚ) : MultipleOf places (halfUp places q) := ⟨_, rfl⟩

theorem halfUp_of_multipleOf {places : Nat} {q : ℚ} (h : MultipleOf places q) : halfUp places q = q := by
  obtain ⟨n, rfl⟩ := h
  rw [halfUp, div_mul_cancel₀ _ (by positivity), Int.floor_intCast_add]
  norm_num

theorem halfUp_mono {places : Nat} {p q : ℚ} (h : p ≤ q) : halfUp places p ≤ halfUp places q := by
  unfold halfUp
  gcongr

theorem halfUp_nonneg {places : Nat} {q : ℚ} (h : 0 ≤ q) : 0 ≤ halfUp places q := by
  rw [← halfUp_of_multipleOf (MultipleOf.zero places)]
  exact halfUp_mono h

theorem halfUp_le (places : Nat) (q : ℚ) : halfUp places q ≤ q + 1 / 2 / 10 ^ places := by
  have hpos : (0 : ℚ) < 10 ^ places := by positivity
  rw [halfUp, div_le_iff₀ hpos, add_mul, div_mul_cancel₀ _ hpos.ne']
  exact Int.floor_le _

theorem MultipleOf.halfUp {s : Nat} {q : ℚ} (h : MultipleOf s q) (places : Nat) : MultipleOf s (halfUp places q) := by
  rcases Nat.le_total places s with hle | hle
  · exact (halfUp_multipleOf places q).mono hle
  · rwa [halfUp_of_multipleOf (h.mono hle)]

theorem toRat_round {d : Decimal} (hd : 0 ≤ d.toRat) (places : Nat) :
    (d.round .halfAwayFromZero places).toRat = halfUp places d.toRat := by
  by_cases h : d.scale ≤ places
  · rw [round_of_scale_le _ h, halfUp_of_multipleOf (d.multipleOf_toRat h)]
  have hc : 0 ≤ d.coefficient := by
    rw [toRat, le_div_iff₀ (by positivity), zero_mul] at hd
    exact_mod_cast hd
  obtain ⟨n, hn⟩ := Int.eq_ofNat_of_zero_le hc
  obtain ⟨k, hk⟩ := Nat.exists_eq_add_of_le (Nat.le_of_not_le h)
  have hdrop : Rounding.halfAwayFromZero.dropDigits d.coefficient (d.scale - places) =
      ⌊((n : ℚ) / (10 ^ k : Nat) + 1 / 2 : ℚ)⌋ := by
    rw [← Rounding.halfAwayFromZero_eq_floor n (Nat.pow_pos (by decide)), Rounding.dropDigits, hn,
      show d.scale - places = k by omega]
    rcases Nat.eq_zero_or_pos n with rfl | hpos
    · simp [Rounding.divide]
    · rw [Int.natAbs_natCast, Int.sign_eq_one_of_pos (Int.natCast_pos.mpr hpos), one_mul]
  have hvalue : d.toRat * 10 ^ places = n / (10 ^ k : Nat) := by
    rw [toRat, hn, hk, pow_add]
    push_cast
    field_simp
  rw [round, dif_neg h, halfUp, hvalue, ← hdrop, toRat]

/-! ## To fewer places -/

theorem toRat_round_sub (mode : Rounding) {d : Decimal} {places : Nat} (h : ¬ d.scale ≤ places) :
    (d.round mode places).toRat - d.toRat =
      ((mode.dropDigits d.coefficient (d.scale - places) * 10 ^ (d.scale - places) - d.coefficient : ℤ) : ℚ) /
        10 ^ (d.scale - places) / 10 ^ places := by
  have hround : (d.round mode places).toRat = mode.dropDigits d.coefficient (d.scale - places) / 10 ^ places := by
    rw [round, dif_neg h, toRat]
  have hscale : (10 : ℚ) ^ d.scale = 10 ^ (d.scale - places) * 10 ^ places := by
    rw [← pow_add, Nat.sub_add_cancel (Nat.le_of_not_le h)]
  rw [hround, toRat, hscale]
  push_cast
  field_simp

theorem abs_truncated_sub_lt (d : Decimal) (places : Nat) :
    |(d.round .towardZero places).toRat - d.toRat| < 1 / 10 ^ places := by
  by_cases h : d.scale ≤ places
  · rw [round_of_scale_le _ h, sub_self, abs_zero]
    positivity
  have hdropped := Rounding.abs_dropDigits_towardZero_lt d.coefficient (d.scale - places)
  rw [toRat_round_sub _ h, abs_div, abs_div, abs_of_pos (by positivity : (0 : ℚ) < 10 ^ places),
    abs_of_pos (by positivity : (0 : ℚ) < 10 ^ (d.scale - places)), ← Int.cast_abs]
  gcongr
  rw [div_lt_one (by positivity)]
  exact_mod_cast hdropped

theorem abs_rounded_sub_le (d : Decimal) (places : Nat) :
    |(d.round .halfToEven places).toRat - d.toRat| ≤ 1 / 2 / 10 ^ places := by
  by_cases h : d.scale ≤ places
  · rw [round_of_scale_le _ h, sub_self, abs_zero]
    positivity
  have hdropped := Rounding.abs_dropDigits_halfToEven_le d.coefficient (d.scale - places)
  rw [toRat_round_sub _ h, abs_div, abs_div, abs_of_pos (by positivity : (0 : ℚ) < 10 ^ places),
    abs_of_pos (by positivity : (0 : ℚ) < 10 ^ (d.scale - places)), ← Int.cast_abs]
  refine div_le_div_of_nonneg_right ?_ (by positivity)
  rw [div_le_iff₀ (by positivity), div_mul_eq_mul_div, one_mul, le_div_iff₀ (by norm_num), mul_comm]
  exact_mod_cast hdropped

theorem round_nonneg (mode : Rounding) {d : Decimal} (h : 0 ≤ d.toRat) (places : Nat) :
    0 ≤ (d.round mode places).toRat := by
  rw [toRat_nonneg_iff] at h ⊢
  unfold round
  split
  · exact h
  · exact mul_nonneg (Int.sign_nonneg_iff.mpr h) (Int.natCast_nonneg _)

theorem toRat_round_of_multipleOf (mode : Rounding) {d : Decimal} {places : Nat} (h : MultipleOf places d.toRat) :
    (d.round mode places).toRat = d.toRat := by
  by_cases hscale : d.scale ≤ places
  · rw [round_of_scale_le _ hscale]
  obtain ⟨n, hn⟩ := h
  have hcoefficient : d.coefficient = n * 10 ^ (d.scale - places) := by
    have hten : (10 : ℚ) ^ d.scale = 10 ^ (d.scale - places) * 10 ^ places := by
      rw [← pow_add, Nat.sub_add_cancel (Nat.le_of_not_le hscale)]
    rw [toRat, hten, div_eq_div_iff (by positivity) (by positivity), ← mul_assoc] at hn
    exact_mod_cast mul_right_cancel₀ (by positivity) hn
  rw [← sub_eq_zero, toRat_round_sub _ hscale, hcoefficient, Rounding.dropDigits_mul]
  simp

/-! ## Sums -/

theorem abs_reduce_sub_le {c : Int} {s : Nat} {d : Decimal} (hs : s ≤ 28) (h : reduce c s = some d) :
    |d.toRat - c / 10 ^ s| ≤ |(c : ℚ) / 10 ^ s| / 10 ^ 28 := by
  obtain ⟨k, hk, hfit, hnone⟩ := findSome?_range_eq_some h
  have hten : (10 : ℚ) ^ s = 10 ^ (s - k) * 10 ^ k := by rw [← pow_add, Nat.sub_add_cancel (Nat.le_of_lt_succ hk)]
  have herror : d.toRat - c / 10 ^ s = ((Rounding.halfToEven.dropDigits c k * 10 ^ k - c : ℤ) : ℚ) / 10 ^ s := by
    rw [toRat_of_ofParts? hfit, hten]
    push_cast
    field_simp
  have hdigits : 10 ^ 28 * |Rounding.halfToEven.dropDigits c k * 10 ^ k - c| ≤ |c| := by
    cases k with
    | zero => simp
    | succ j =>
      have hlarge := (ofParts?_eq_none (by omega)).mp (hnone j (Nat.lt_succ_self j))
      have hcut := Rounding.abs_dropDigits_halfToEven_le c (j + 1)
      have hlonger := Rounding.abs_dropDigits_halfToEven_le c j
      have hunit : (0 : ℤ) < 10 ^ j := by positivity
      have hkept : (2 ^ 96 : ℤ) * 10 ^ j ≤ |Rounding.halfToEven.dropDigits c j * 10 ^ j| := by
        rw [abs_mul, abs_of_pos hunit, Int.abs_eq_natAbs]
        gcongr
        exact_mod_cast hlarge
      have htriangle := abs_sub_abs_le_abs_sub (Rounding.halfToEven.dropDigits c j * 10 ^ j) c
      rw [pow_succ (10 : ℤ) j] at hcut ⊢
      linarith
  rw [herror, abs_div, abs_div, abs_of_pos (by positivity : (0 : ℚ) < 10 ^ s), div_right_comm]
  refine div_le_div_of_nonneg_right ?_ (by positivity)
  rw [le_div_iff₀ (by positivity), mul_comm]
  exact_mod_cast hdigits

theorem abs_roundingError_le (a b : Decimal) : |roundingError a b| ≤ |a.toRat + b.toRat| / 10 ^ 28 := by
  by_cases hr : Representable (a.toRat + b.toRat)
  · rw [roundingError_of_representable hr, abs_zero]
    positivity
  obtain ⟨ha, hb⟩ := coefficients_ne_zero_of_not_representable hr
  obtain ⟨n, s, hs, hadd, hexact⟩ := add?_eq_reduce ha hb
  rw [roundingError, hadd, hexact]
  cases hsum : reduce n s with
  | none =>
    rw [abs_zero]
    positivity
  | some c => exact abs_reduce_sub_le hs hsum

end Decimal
end Settlement
