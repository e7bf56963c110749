import Mathlib.Algebra.Order.Field.Basic
import Mathlib.Algebra.Order.Field.Rat
import Mathlib.Tactic.FieldSimp
import Mathlib.Tactic.Linarith
import Mathlib.Tactic.NormNum
import Mathlib.Tactic.Ring
import Settlement.Decimal.Arithmetic

/-! Decimals as exact numbers. Comparing decimals compares the numbers, and a sum is
exact whenever the number that it should be is one that a decimal can hold. -/
namespace Settlement
namespace Rounding

theorem dropDigits_mul (mode : Rounding) (q : Int) (k : Nat) : mode.dropDigits (q * 10 ^ k) k = q := by
  have hp : (0 : Int) < 10 ^ k := Int.pow_pos (by decide)
  have ha : (q * 10 ^ k).natAbs = q.natAbs * 10 ^ k := by
    rw [Int.natAbs_mul, Int.natAbs_pow]
    rfl
  rw [dropDigits, ha, divide_mul mode q.natAbs (Nat.pow_pos (by decide)), Int.sign_mul,
    Int.sign_eq_one_of_pos hp, mul_one]
  exact Int.sign_mul_natAbs q

end Rounding

namespace Decimal

/-- The number that a decimal stands for. -/
def toRat (d : Decimal) : ℚ := d.coefficient / 10 ^ d.scale

theorem toRat_eq_aligned (d : Decimal) : d.toRat = d.aligned / 10 ^ 28 := by
  have hs : (10 : ℚ) ^ 28 = 10 ^ (28 - d.scale) * 10 ^ d.scale := by
    rw [← pow_add, Nat.sub_add_cancel d.scale_le]
  rw [toRat, aligned, hs]
  push_cast
  field_simp

theorem le_iff_toRat {a b : Decimal} : a ≤ b ↔ a.toRat ≤ b.toRat := by
  rw [le_iff, toRat_eq_aligned, toRat_eq_aligned, div_le_div_iff_of_pos_right (by positivity)]
  exact Int.cast_le.symm

theorem lt_iff_toRat {a b : Decimal} : a < b ↔ a.toRat < b.toRat := by
  rw [← not_le, ← Rat.not_le, le_iff_toRat]

theorem sameValue_iff_toRat {a b : Decimal} : SameValue a b ↔ a.toRat = b.toRat := by
  rw [toRat_eq_aligned, toRat_eq_aligned, div_left_inj' (by positivity)]
  exact Int.cast_inj.symm

@[simp] theorem toRat_zero : zero.toRat = 0 := by simp [toRat, zero, ofNat, ofParts]

@[simp] theorem toRat_ofNat (n : Nat) (h : n < 2 ^ 96) : (ofNat n h).toRat = n := by
  simp [toRat, ofNat, ofParts]

@[simp] theorem toRat_neg (d : Decimal) : d.neg.toRat = -d.toRat := by
  simp only [toRat, neg]
  push_cast
  ring

theorem positive_iff_toRat {d : Decimal} : d.Positive ↔ 0 < d.toRat := by
  rw [positive_iff, lt_iff_toRat, toRat_zero]

theorem toRat_of_coefficient_eq_zero {d : Decimal} (h : d.coefficient = 0) : d.toRat = 0 := by
  simp [toRat, h]

theorem coefficientAt_div (d : Decimal) {s : Nat} (h : d.scale ≤ s) :
    (d.coefficientAt s : ℚ) / 10 ^ s = d.toRat := by
  have hs : (10 : ℚ) ^ s = 10 ^ (s - d.scale) * 10 ^ d.scale := by
    rw [← pow_add, Nat.sub_add_cancel h]
  rw [coefficientAt, toRat, hs]
  push_cast
  field_simp

def Representable (q : ℚ) : Prop := ∃ d : Decimal, d.toRat = q

theorem toRat_of_ofParts? {c : Int} {s : Nat} {d : Decimal} (h : ofParts? c s = some d) :
    d.toRat = c / 10 ^ s := by
  obtain ⟨hc, hs, -⟩ := ofParts?_eq_some.mp h
  rw [toRat, hc, hs]

theorem exists_fitting {c : Int} {s : Nat} (h : Representable (c / 10 ^ s)) :
    ∃ k ≤ s, ∃ q : Int, c = q * 10 ^ k ∧ q.natAbs < 2 ^ 96 ∧ s - k ≤ 28 := by
  obtain ⟨d, hd⟩ := h
  have hc : d.coefficient * 10 ^ s = c * 10 ^ d.scale := by
    rw [toRat, div_eq_div_iff (by positivity) (by positivity)] at hd
    exact_mod_cast hd
  rcases Nat.le_total s d.scale with hs | hs
  · have hq : d.coefficient = c * 10 ^ (d.scale - s) := by
      apply mul_right_cancel₀ (pow_ne_zero s (by decide : (10 : Int) ≠ 0))
      rw [hc, mul_assoc, ← pow_add, Nat.sub_add_cancel hs]
    have hle : c.natAbs ≤ d.coefficient.natAbs := by
      rw [hq, Int.natAbs_mul]
      exact Nat.le_mul_of_pos_right _ (by positivity)
    exact ⟨0, Nat.zero_le s, c, by simp, Nat.lt_of_le_of_lt hle d.coefficient_lt,
      Nat.le_trans (Nat.sub_le s 0) (Nat.le_trans hs d.scale_le)⟩
  · refine ⟨s - d.scale, Nat.sub_le _ _, d.coefficient, ?_, d.coefficient_lt, ?_⟩
    · apply mul_right_cancel₀ (pow_ne_zero d.scale (by decide : (10 : Int) ≠ 0))
      rw [← hc, mul_assoc, ← pow_add, Nat.sub_add_cancel hs]
    · have := d.scale_le
      omega

theorem findSome?_range_le {β : Type} (f : Nat → Option β) {n k : Nat} (hk : k < n) (hf : (f k).isSome) :
    ∃ j ≤ k, ∃ b, f j = some b ∧ (List.range n).findSome? f = some b := by
  induction k generalizing f n with
  | zero =>
    obtain ⟨b, hb⟩ := Option.isSome_iff_exists.mp hf
    obtain ⟨n, rfl⟩ := Nat.exists_eq_succ_of_ne_zero (Nat.ne_of_gt hk)
    exact ⟨0, le_refl 0, b, hb, by simp [List.range_succ_eq_map, hb]⟩
  | succ k ih =>
    obtain ⟨n, rfl⟩ := Nat.exists_eq_succ_of_ne_zero (Nat.ne_of_gt (Nat.zero_lt_of_lt hk))
    rw [List.range_succ_eq_map, List.findSome?_cons]
    cases h0 : f 0 with
    | some b => exact ⟨0, Nat.zero_le _, b, h0, rfl⟩
    | none =>
      obtain ⟨j, hj, b, hb, hr⟩ := ih (fun i => f (i + 1)) (Nat.lt_of_succ_lt_succ hk) hf
      exact ⟨j + 1, Nat.succ_le_succ hj, b, hb, by rw [List.findSome?_map]; exact hr⟩

theorem reduce_of_representable {c : Int} {s : Nat} (h : Representable (c / 10 ^ s)) :
    ∃ d, reduce c s = some d ∧ d.toRat = c / 10 ^ s := by
  obtain ⟨k, hk, q, hc, hq, hs⟩ := exists_fitting h
  have hfit : (ofParts? (Rounding.halfToEven.dropDigits c k) (s - k)).isSome := by
    rw [hc, Rounding.dropDigits_mul, ofParts?, dif_pos ⟨hq, hs⟩]
    rfl
  obtain ⟨j, hj, d, hd, hr⟩ := findSome?_range_le
    (fun k => ofParts? (Rounding.halfToEven.dropDigits c k) (s - k)) (Nat.lt_succ_of_le hk) hfit
  refine ⟨d, hr, ?_⟩
  have hcj : c = q * 10 ^ (k - j) * 10 ^ j := by
    rw [hc, mul_assoc, ← pow_add, Nat.sub_add_cancel hj]
  have hp : (10 : ℚ) ^ s = 10 ^ (s - j) * 10 ^ j := by
    rw [← pow_add, Nat.sub_add_cancel (Nat.le_trans hj hk)]
  rw [hcj, Rounding.dropDigits_mul] at hd
  rw [toRat_of_ofParts? hd, hcj, hp]
  push_cast
  field_simp

theorem add?_of_representable {a b : Decimal} (h : Representable (a.toRat + b.toRat)) :
    ∃ c, a.add? b = some c ∧ c.toRat = a.toRat + b.toRat := by
  unfold add?
  by_cases ha : a.coefficient = 0
  · exact ⟨b, if_pos ha, by rw [toRat_of_coefficient_eq_zero ha, zero_add]⟩
  by_cases hb : b.coefficient = 0
  · exact ⟨a, by rw [if_neg ha, if_pos hb], by rw [toRat_of_coefficient_eq_zero hb, add_zero]⟩
  rw [if_neg ha, if_neg hb]
  have hsum : a.toRat + b.toRat =
      ((a.coefficientAt (max a.scale b.scale) + b.coefficientAt (max a.scale b.scale) : Int) : ℚ) /
        10 ^ max a.scale b.scale := by
    rw [← a.coefficientAt_div (Nat.le_max_left _ b.scale), ← b.coefficientAt_div (Nat.le_max_right a.scale _)]
    push_cast
    ring
  rw [hsum] at h ⊢
  exact reduce_of_representable h

theorem sub?_of_representable {a b : Decimal} (h : Representable (a.toRat - b.toRat)) :
    ∃ c, a.sub? b = some c ∧ c.toRat = a.toRat - b.toRat := by
  rw [sub_eq_add_neg, ← toRat_neg] at h ⊢
  exact add?_of_representable h

/-- How far a sum is from the exact one. A sum that is out of range has no error. -/
def roundingError (a b : Decimal) : ℚ :=
  match a.add? b with
  | some c => c.toRat - (a.toRat + b.toRat)
  | none => 0

theorem toRat_of_add? {a b c : Decimal} (h : a.add? b = some c) :
    c.toRat = a.toRat + b.toRat + roundingError a b := by
  rw [roundingError, h]
  ring

theorem toRat_of_sub? {a b c : Decimal} (h : a.sub? b = some c) :
    c.toRat = a.toRat - b.toRat + roundingError a b.neg := by
  rw [toRat_of_add? h, toRat_neg, sub_eq_add_neg]

theorem roundingError_of_representable {a b : Decimal} (h : Representable (a.toRat + b.toRat)) :
    roundingError a b = 0 := by
  obtain ⟨c, hc, hv⟩ := add?_of_representable h
  rw [roundingError, hc]
  exact sub_eq_zero.mpr hv

/-- The number is a multiple of `10 ^ -s`. -/
def MultipleOf (s : Nat) (q : ℚ) : Prop := ∃ n : ℤ, q = n / 10 ^ s

theorem MultipleOf.zero (s : Nat) : MultipleOf s 0 := ⟨0, by simp⟩

theorem MultipleOf.add {s : Nat} {p q : ℚ} (hp : MultipleOf s p) (hq : MultipleOf s q) :
    MultipleOf s (p + q) := by
  obtain ⟨m, rfl⟩ := hp
  obtain ⟨n, rfl⟩ := hq
  exact ⟨m + n, by push_cast; rw [add_div]⟩

theorem MultipleOf.sub {s : Nat} {p q : ℚ} (hp : MultipleOf s p) (hq : MultipleOf s q) :
    MultipleOf s (p - q) := by
  obtain ⟨m, rfl⟩ := hp
  obtain ⟨n, rfl⟩ := hq
  exact ⟨m - n, by push_cast; rw [sub_div]⟩

/-- Multiples of `10 ^ -s` can be held as long as their coefficient at scale `s` fits. -/
theorem MultipleOf.representable {s : Nat} {q : ℚ} (h : MultipleOf s q) (hs : s ≤ 28)
    (hq : |q| < 2 ^ 96 / 10 ^ s) : Representable q := by
  obtain ⟨n, rfl⟩ := h
  have hp : (0 : ℚ) < 10 ^ s := by positivity
  rw [abs_div, abs_of_pos hp, div_lt_div_iff_of_pos_right hp, ← Int.cast_abs] at hq
  have hn : n.natAbs < 2 ^ 96 := by
    have hn' : |n| < 2 ^ 96 := by exact_mod_cast hq
    rw [Int.abs_eq_natAbs] at hn'
    exact_mod_cast hn'
  exact ⟨ofParts n s hn hs, rfl⟩

def sum? (ds : List Decimal) : Option Decimal := ds.foldlM add? zero

theorem sum?_concat (ds : List Decimal) (d : Decimal) : sum? (ds ++ [d]) = (sum? ds).bind (·.add? d) := by
  simp [sum?, List.foldlM_append]

end Decimal
end Settlement
