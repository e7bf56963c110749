import Settlement.Proofs.Decimal.Value

/-! Rounded sums. Rounding never carries a number across one that a decimal can hold, it
keeps the sign, and it depends on the number alone and not on how many places it is
written with. -/
namespace Settlement
namespace Rounding

variable (mode : Rounding)

theorem le_divide (n d : Nat) : n / d ≤ mode.divide n d := by
  cases mode <;> simp only [divide] <;> (repeat' split) <;> omega

theorem divide_le_of_le_mul {n q d : Nat} (hd : 0 < d) (h : n ≤ q * d) : mode.divide n d ≤ q := by
  rcases Nat.lt_or_ge (n / d) q with hlt | hge
  · exact Nat.le_trans (mode.divide_le n d) hlt
  · have hn : n = q * d := Nat.le_antisymm h ((Nat.le_div_iff_mul_le hd).mp hge)
    rw [hn, divide_mul mode q hd]

theorem divide_mul_mul (n d : Nat) {m : Nat} (hm : 0 < m) : mode.divide (n * m) (d * m) = mode.divide n d := by
  have hq : n * m / (d * m) = n / d := Nat.mul_div_mul_right n d hm
  have hr : n * m % (d * m) = n % d * m := Nat.mul_mod_mul_right m n d
  have hle : d * m ≤ 2 * (n % d * m) ↔ d ≤ 2 * (n % d) := by
    rw [← Nat.mul_assoc]
    exact Nat.mul_le_mul_right_iff hm
  have hlt : 2 * (n % d * m) < d * m ↔ 2 * (n % d) < d := by
    rw [← Nat.mul_assoc]
    exact Nat.mul_lt_mul_right hm
  have heq : 2 * (n % d * m) = d * m ↔ 2 * (n % d) = d := by
    rw [← Nat.mul_assoc]
    exact Nat.mul_left_inj (Nat.ne_of_gt hm)
  cases mode <;> simp only [divide, hq, hr, hle, hlt, heq]

theorem dropDigits_mul_ten (c : Int) (k : Nat) : mode.dropDigits (c * 10) (k + 1) = mode.dropDigits c k := by
  have hn : (c * 10).natAbs = c.natAbs * 10 := Int.natAbs_mul c 10
  have hsign : (c * 10).sign = c.sign := by
    rw [Int.sign_mul]
    exact Int.mul_one _
  rw [dropDigits, dropDigits, hn, hsign, pow_succ, divide_mul_mul mode _ _ (by decide)]

theorem halfToEven_near (n : Nat) {d : Nat} (hd : 0 < d) :
    2 * n ≤ 2 * (d * halfToEven.divide n d) + d ∧ 2 * (d * halfToEven.divide n d) ≤ 2 * n + d := by
  have hn := Nat.div_add_mod n d
  have hr := Nat.mod_lt n hd
  simp only [divide]
  split
  case isTrue h => omega
  case isFalse h =>
    rw [Nat.mul_add, Nat.mul_one]
    omega

end Rounding

namespace Decimal

theorem findSome?_range_eq_some {β : Type} {f : Nat → Option β} {n : Nat} {b : β}
    (h : (List.range n).findSome? f = some b) : ∃ k < n, f k = some b ∧ ∀ j < k, f j = none := by
  induction n generalizing f with
  | zero => cases h
  | succ n ih =>
    rw [List.range_succ_eq_map, List.findSome?_cons] at h
    cases h0 : f 0 with
    | some a =>
      rw [h0] at h
      cases h
      exact ⟨0, Nat.succ_pos n, h0, fun j hj => absurd hj (Nat.not_lt_zero j)⟩
    | none =>
      rw [h0, List.findSome?_map] at h
      obtain ⟨k, hk, hb, hnone⟩ := ih h
      refine ⟨k + 1, Nat.succ_lt_succ hk, hb, fun j hj => ?_⟩
      cases j with
      | zero => exact h0
      | succ j => exact hnone j (Nat.lt_of_succ_lt_succ hj)

theorem ofParts?_eq_none {c : Int} {s : Nat} (hs : s ≤ 28) : ofParts? c s = none ↔ 2 ^ 96 ≤ c.natAbs := by
  unfold ofParts?
  split
  case isTrue h => simp [h.1]
  case isFalse h => simpa [hs] using h

/-! ## Bounds -/

theorem abs_le_abs_iff {a b : Int} {m n : Nat} :
    |(a : ℚ) / 10 ^ m| ≤ |(b : ℚ) / 10 ^ n| ↔ a.natAbs * 10 ^ n ≤ b.natAbs * 10 ^ m := by
  rw [abs_div, abs_div, abs_of_pos (by positivity : (0 : ℚ) < 10 ^ m), abs_of_pos (by positivity : (0 : ℚ) < 10 ^ n),
    div_le_div_iff₀ (by positivity) (by positivity), ← Int.cast_abs, ← Int.cast_abs, Int.abs_eq_natAbs,
    Int.abs_eq_natAbs]
  norm_cast

theorem reduce_of_abs_le {c : Int} {s : Nat} {t : Decimal} (hs : s ≤ 28) (h : |(c : ℚ) / 10 ^ s| ≤ t.toRat) :
    ∃ d, reduce c s = some d ∧ |d.toRat| ≤ t.toRat := by
  have ht : 0 ≤ t.toRat := le_trans (abs_nonneg _) h
  have hnat : c.natAbs * 10 ^ t.scale ≤ t.coefficient.natAbs * 10 ^ s :=
    abs_le_abs_iff.mp (le_trans h (le_abs_self t.toRat))
  rcases Nat.le_total s t.scale with hts | hts
  · have hle : c.natAbs ≤ t.coefficient.natAbs := by
      refine Nat.le_of_mul_le_mul_right (Nat.le_trans (Nat.mul_le_mul_left _ ?_) hnat) (Nat.pow_pos (by decide))
      exact Nat.pow_le_pow_right (by decide) hts
    have hfit : ofParts? c s = some (ofParts c s (Nat.lt_of_le_of_lt hle t.coefficient_lt) hs) :=
      dif_pos ⟨Nat.lt_of_le_of_lt hle t.coefficient_lt, hs⟩
    exact ⟨_, reduce_of_fits hfit, h⟩
  · have hten : (10 : Nat) ^ s = 10 ^ (s - t.scale) * 10 ^ t.scale := by
      rw [← pow_add, Nat.sub_add_cancel hts]
    have hle : c.natAbs ≤ t.coefficient.natAbs * 10 ^ (s - t.scale) := by
      rw [hten, ← Nat.mul_assoc] at hnat
      exact Nat.le_of_mul_le_mul_right hnat (Nat.pow_pos (by decide))
    have hdrop (k : Nat) (hk : k ≤ s - t.scale) : (Rounding.halfToEven.dropDigits c k).natAbs ≤
        t.coefficient.natAbs * 10 ^ (s - t.scale - k) := by
      have hpos : 0 < 10 ^ k := Nat.pow_pos (by decide)
      refine Nat.le_trans (Rounding.natAbs_dropDigits _ c k) (Rounding.divide_le_of_le_mul _ hpos ?_)
      rw [Nat.mul_assoc, ← pow_add, Nat.sub_add_cancel hk]
      exact hle
    have hfits : (ofParts? (Rounding.halfToEven.dropDigits c (s - t.scale)) (s - (s - t.scale))).isSome := by
      have hcoefficient := hdrop (s - t.scale) (le_refl _)
      rw [Nat.sub_self, pow_zero, Nat.mul_one] at hcoefficient
      rw [ofParts?, dif_pos ⟨Nat.lt_of_le_of_lt hcoefficient t.coefficient_lt, by omega⟩]
      rfl
    obtain ⟨k, hk, d, hd, hr⟩ := findSome?_range_le
      (fun k => ofParts? (Rounding.halfToEven.dropDigits c k) (s - k)) (n := s + 1) (by omega) hfits
    refine ⟨d, hr, ?_⟩
    have hscale : 10 ^ (s - k) = 10 ^ (s - t.scale - k) * 10 ^ t.scale := by
      rw [← pow_add]
      congr 1
      omega
    rw [← abs_of_nonneg ht, toRat_of_ofParts? hd]
    refine abs_le_abs_iff.mpr ?_
    rw [hscale, ← Nat.mul_assoc]
    exact Nat.mul_le_mul_right _ (hdrop k hk)

theorem add?_eq_reduce {a b : Decimal} (ha : a.coefficient ≠ 0) (hb : b.coefficient ≠ 0) :
    ∃ c : Int, ∃ s ≤ 28, a.add? b = reduce c s ∧ a.toRat + b.toRat = c / 10 ^ s := by
  refine ⟨a.coefficientAt (max a.scale b.scale) + b.coefficientAt (max a.scale b.scale), max a.scale b.scale,
    Nat.max_le.mpr ⟨a.scale_le, b.scale_le⟩, ?_, ?_⟩
  · rw [add?, if_neg ha, if_neg hb]
  · rw [← a.coefficientAt_div (Nat.le_max_left _ b.scale), ← b.coefficientAt_div (Nat.le_max_right a.scale _)]
    push_cast
    ring

theorem coefficients_ne_zero_of_not_representable {a b : Decimal} (h : ¬ Representable (a.toRat + b.toRat)) :
    a.coefficient ≠ 0 ∧ b.coefficient ≠ 0 := by
  constructor
  · intro hzero
    exact h ⟨b, by rw [toRat_of_coefficient_eq_zero hzero, zero_add]⟩
  · intro hzero
    exact h ⟨a, by rw [toRat_of_coefficient_eq_zero hzero, add_zero]⟩

theorem add?_of_abs_le {a b t : Decimal} (h : |a.toRat + b.toRat| ≤ t.toRat) :
    ∃ c, a.add? b = some c ∧ |c.toRat| ≤ t.toRat := by
  by_cases ha : a.coefficient = 0
  · rw [toRat_of_coefficient_eq_zero ha, zero_add] at h
    exact ⟨b, if_pos ha, h⟩
  by_cases hb : b.coefficient = 0
  · rw [toRat_of_coefficient_eq_zero hb, add_zero] at h
    exact ⟨a, by rw [add?, if_neg ha, if_pos hb], h⟩
  obtain ⟨c, s, hs, hadd, hsum⟩ := add?_eq_reduce ha hb
  rw [hsum] at h
  rw [hadd]
  exact reduce_of_abs_le hs h

theorem sub?_of_abs_le {a b t : Decimal} (h : |a.toRat - b.toRat| ≤ t.toRat) :
    ∃ c, a.sub? b = some c ∧ |c.toRat| ≤ t.toRat := by
  rw [sub_eq_add_neg, ← toRat_neg] at h
  exact add?_of_abs_le h

theorem toRat_abs (d : Decimal) : d.abs.toRat = |d.toRat| := by
  rw [toRat, toRat, abs_div, abs_of_pos (by positivity : (0 : ℚ) < 10 ^ d.scale), ← Int.cast_abs, Int.abs_eq_natAbs]
  rfl

/-! ## Signs -/

theorem reduce_positive_iff {c : Int} {s : Nat} {d : Decimal} (hs : s ≤ 28) (h : reduce c s = some d) :
    d.Positive ↔ 0 < c := by
  obtain ⟨k, -, hk, hnone⟩ := findSome?_range_eq_some h
  obtain ⟨hd, -, -⟩ := ofParts?_eq_some.mp hk
  unfold Positive
  rw [hd, Rounding.dropDigits]
  constructor
  · intro hpos
    exact Int.sign_pos_iff.mp (pos_of_mul_pos_left hpos (Int.natCast_nonneg _))
  · intro hc
    have hdigit : 10 ^ k ≤ c.natAbs := by
      cases k with
      | zero => simp only [pow_zero]; omega
      | succ j =>
        have hlarge := (ofParts?_eq_none (by omega)).mp (hnone j (Nat.lt_succ_self j))
        have h₁ := Rounding.natAbs_dropDigits .halfToEven c j
        have h₂ := Rounding.divide_le .halfToEven c.natAbs (10 ^ j)
        have h₃ : 10 ≤ c.natAbs / 10 ^ j := by omega
        rw [Nat.le_div_iff_mul_le (Nat.pow_pos (by decide))] at h₃
        rw [pow_succ]
        omega
    have hkept : 0 < Rounding.halfToEven.divide c.natAbs (10 ^ k) :=
      Nat.lt_of_lt_of_le (Nat.div_pos hdigit (Nat.pow_pos (by decide))) (Rounding.le_divide _ _ _)
    rw [Int.sign_eq_one_of_pos hc, one_mul]
    exact_mod_cast hkept

theorem add?_positive_iff {a b c : Decimal} (h : a.add? b = some c) : c.Positive ↔ 0 < a.toRat + b.toRat := by
  by_cases ha : a.coefficient = 0
  · rw [add?, if_pos ha] at h
    cases h
    rw [positive_iff_toRat, toRat_of_coefficient_eq_zero ha, zero_add]
  by_cases hb : b.coefficient = 0
  · rw [add?, if_neg ha, if_pos hb] at h
    cases h
    rw [positive_iff_toRat, toRat_of_coefficient_eq_zero hb, add_zero]
  obtain ⟨n, s, hs, hadd, hsum⟩ := add?_eq_reduce ha hb
  rw [hadd] at h
  rw [reduce_positive_iff hs h, hsum]
  constructor
  · intro hn
    have : (0 : ℚ) < n := by exact_mod_cast hn
    positivity
  · intro hn
    have := (div_pos_iff_of_pos_right (by positivity : (0 : ℚ) < 10 ^ s)).mp hn
    exact_mod_cast this

theorem sub?_positive_iff {a b c : Decimal} (h : a.sub? b = some c) : c.Positive ↔ b.toRat < a.toRat := by
  rw [add?_positive_iff h, toRat_neg, ← sub_eq_add_neg, sub_pos]

theorem toRat_nonneg_iff {d : Decimal} : 0 ≤ d.toRat ↔ 0 ≤ d.coefficient := by
  rw [toRat, le_div_iff₀ (by positivity), zero_mul, Int.cast_nonneg_iff]

theorem sub?_of_nonneg {a b : Decimal} (ha : 0 ≤ a.toRat) (hb : 0 ≤ b.toRat) : ∃ c, a.sub? b = some c := by
  have hlarger : ∃ t : Decimal, a.toRat ≤ t.toRat ∧ b.toRat ≤ t.toRat := by
    rcases le_total a.toRat b.toRat with h | h
    · exact ⟨b, h, le_rfl⟩
    · exact ⟨a, le_rfl, h⟩
  obtain ⟨t, hat, hbt⟩ := hlarger
  have hrange : |a.toRat - b.toRat| ≤ t.toRat := abs_le.mpr ⟨by linarith, by linarith⟩
  obtain ⟨c, hc, -⟩ := sub?_of_abs_le hrange
  exact ⟨c, hc⟩

theorem mul?_nonneg {a b c : Decimal} (ha : 0 ≤ a.toRat) (hb : 0 ≤ b.toRat) (h : a.mul? b = some c) : 0 ≤ c.toRat := by
  rw [toRat_nonneg_iff] at ha hb ⊢
  unfold mul? at h
  split at h
  · cases h
    exact le_rfl
  split at h
  · cases h
    exact le_rfl
  · obtain ⟨k, -, hk, -⟩ := findSome?_range_eq_some h
    obtain ⟨hc, -, -⟩ := ofParts?_eq_some.mp hk
    rw [hc]
    exact mul_nonneg (Int.sign_nonneg_iff.mpr (mul_nonneg ha hb)) (Int.natCast_nonneg _)

theorem div?_nonneg {a b c : Decimal} (ha : 0 ≤ a.toRat) (hb : 0 ≤ b.toRat) (h : a.div? b = some c) :
    0 ≤ c.toRat := by
  rw [toRat_nonneg_iff] at ha hb ⊢
  unfold div? at h
  split at h
  · cases h
  split at h
  · cases h
    exact le_rfl
  · obtain ⟨q, -, hq⟩ := Option.bind_eq_some_iff.mp h
    obtain ⟨hc, -, -⟩ := ofParts?_eq_some.mp hq
    rw [hc]
    exact mul_nonneg (mul_nonneg (Int.sign_nonneg_iff.mpr ha) (Int.sign_nonneg_iff.mpr hb)) (Int.natCast_nonneg _)

/-! ## Places -/

theorem toRat_reduce_mul_ten (c : Int) {s : Nat} (hs : s + 1 ≤ 28) :
    (reduce (c * 10) (s + 1)).map toRat = (reduce c s).map toRat := by
  rw [reduce, List.range_succ_eq_map, List.findSome?_cons, List.findSome?_map]
  have htail : (List.range (s + 1)).findSome? ((fun k =>
      ofParts? (Rounding.halfToEven.dropDigits (c * 10) k) (s + 1 - k)) ∘ Nat.succ) = reduce c s := by
    refine congrArg (List.findSome? · _) (funext fun k => ?_)
    show ofParts? (Rounding.halfToEven.dropDigits (c * 10) (k + 1)) (s + 1 - (k + 1)) = _
    rw [Rounding.dropDigits_mul_ten, Nat.succ_sub_succ]
  rw [htail, Rounding.dropDigits_zero, Nat.sub_zero]
  cases hfit : ofParts? (c * 10) (s + 1) with
  | none => rfl
  | some d =>
    obtain ⟨hc, -, -⟩ := ofParts?_eq_some.mp hfit
    have hlt : c.natAbs < 2 ^ 96 := by
      have hn : (c * 10).natAbs = c.natAbs * 10 := Int.natAbs_mul c 10
      have := d.coefficient_lt
      rw [hc, hn] at this
      omega
    have hfit' : ofParts? c s = some (ofParts c s hlt (by omega)) := dif_pos ⟨hlt, by omega⟩
    rw [reduce_of_fits hfit']
    simp only [Option.map_some, toRat_of_ofParts? hfit, toRat_of_ofParts? hfit']
    push_cast
    rw [pow_succ, mul_div_mul_right _ _ (by norm_num)]

theorem toRat_reduce_mul_pow (c : Int) {s m : Nat} (h : s + m ≤ 28) :
    (reduce (c * 10 ^ m) (s + m)).map toRat = (reduce c s).map toRat := by
  induction m with
  | zero => rw [pow_zero, mul_one, Nat.add_zero]
  | succ m ih =>
    rw [pow_succ, ← mul_assoc, ← Nat.add_assoc, toRat_reduce_mul_ten (c * 10 ^ m) (s := s + m) h]
    exact ih (by omega)

theorem toRat_reduce_congr {c c' : Int} {s s' : Nat} (hs : s ≤ 28) (hs' : s' ≤ 28)
    (h : (c : ℚ) / 10 ^ s = c' / 10 ^ s') : (reduce c s).map toRat = (reduce c' s').map toRat := by
  have longer {c c' : Int} {s m : Nat} (hm : s + m ≤ 28) (h : (c : ℚ) / 10 ^ s = c' / 10 ^ (s + m)) :
      (reduce c s).map toRat = (reduce c' (s + m)).map toRat := by
    have hc : c' = c * 10 ^ m := by
      rw [pow_add, div_eq_div_iff (by positivity) (by positivity), mul_comm ((10 : ℚ) ^ s), ← mul_assoc] at h
      have hcast := mul_right_cancel₀ (by positivity : (10 : ℚ) ^ s ≠ 0) h
      exact_mod_cast hcast.symm
    rw [hc, toRat_reduce_mul_pow c hm]
  rcases Nat.le_total s s' with hle | hle
  · obtain ⟨m, rfl⟩ := Nat.exists_eq_add_of_le hle
    exact longer hs' h
  · obtain ⟨m, rfl⟩ := Nat.exists_eq_add_of_le hle
    exact (longer hs h.symm).symm

theorem toRat_add?_congr {a b a' b' : Decimal} (h : a.toRat + b.toRat = a'.toRat + b'.toRat) :
    (a.add? b).map toRat = (a'.add? b').map toRat := by
  by_cases hr : Representable (a.toRat + b.toRat)
  · obtain ⟨d, hd, hv⟩ := add?_of_representable hr
    obtain ⟨d', hd', hv'⟩ := add?_of_representable (h ▸ hr)
    rw [hd, hd', Option.map_some, Option.map_some, hv, hv', h]
  obtain ⟨ha, hb⟩ := coefficients_ne_zero_of_not_representable hr
  obtain ⟨ha', hb'⟩ := coefficients_ne_zero_of_not_representable (h ▸ hr)
  obtain ⟨n, s, hs, hadd, hsum⟩ := add?_eq_reduce ha hb
  obtain ⟨n', s', hs', hadd', hsum'⟩ := add?_eq_reduce ha' hb'
  rw [hadd, hadd']
  exact toRat_reduce_congr hs hs' (by rw [← hsum, ← hsum', h])

theorem sameValue_of_add? {a b a' b' c c' : Decimal} (h : a.toRat + b.toRat = a'.toRat + b'.toRat)
    (hc : a.add? b = some c) (hc' : a'.add? b' = some c') : c.SameValue c' := by
  have hround := toRat_add?_congr h
  rw [hc, hc'] at hround
  exact sameValue_iff_toRat.mpr (Option.some.inj hround)

theorem toRat_sub?_congr {a b a' b' : Decimal} (ha : a.toRat = a'.toRat) (hb : b.toRat = b'.toRat) :
    (a.sub? b).map toRat = (a'.sub? b').map toRat :=
  toRat_add?_congr (by rw [toRat_neg, toRat_neg, ha, hb])

/-! ## Order -/

theorem toRat_smaller (a b : Decimal) : (a.smaller b).toRat = min a.toRat b.toRat := by
  rw [smaller, min_def]
  simp only [le_iff_toRat, apply_ite toRat]

theorem toRat_larger (a b : Decimal) : (a.larger b).toRat = max a.toRat b.toRat := by
  rw [larger, max_def_lt]
  simp only [lt_iff_toRat, apply_ite toRat]

end Decimal
end Settlement
