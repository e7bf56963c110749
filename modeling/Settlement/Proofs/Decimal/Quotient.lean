import Settlement.Proofs.Decimal.Value

/-! Exact products and quotients. A product is exact whenever a decimal can hold the number, and so is a quotient,
though long division appends several digits at a time and may have to take one back. -/
namespace Settlement
namespace Decimal

/-! ## Products -/

theorem mul?_of_representable {a b : Decimal} (h : Representable (a.toRat * b.toRat)) :
    ∃ c, a.mul? b = some c ∧ c.toRat = a.toRat * b.toRat := by
  unfold mul?
  by_cases hzero : a.coefficient = 0 ∨ b.coefficient = 0
  · refine ⟨zero, if_pos hzero, ?_⟩
    rw [toRat_zero]
    rcases hzero with ha | hb
    · rw [toRat_of_coefficient_eq_zero ha, zero_mul]
    · rw [toRat_of_coefficient_eq_zero hb, mul_zero]
  rw [if_neg hzero]
  have hproduct : a.toRat * b.toRat = ((a.coefficient * b.coefficient : Int) : ℚ) / 10 ^ (a.scale + b.scale) := by
    rw [toRat, toRat, div_mul_div_comm, pow_add]
    push_cast
    rfl
  rw [hproduct] at h ⊢
  have hlarge : ¬ (a.coefficient.natAbs < 2 ^ 32 ∧ b.coefficient.natAbs < 2 ^ 32 ∧ 47 < a.scale + b.scale) := by
    -- so many places could only be cut off from a product with twenty zeros at its end, and these factors are too small
    rintro ⟨ha, hb, hscale⟩
    obtain ⟨k, -, q, hq, -, hplaces⟩ := exists_fitting h
    have hnonzero : a.coefficient * b.coefficient ≠ 0 := mul_ne_zero (mt .inl hzero) (mt .inr hzero)
    have hq0 : q.natAbs ≠ 0 := by
      rw [Ne, Int.natAbs_eq_zero]
      rintro rfl
      exact hnonzero (by rw [hq, zero_mul])
    have hmul : a.coefficient.natAbs * b.coefficient.natAbs = q.natAbs * 10 ^ k := by
      rw [← Int.natAbs_mul, hq, Int.natAbs_mul, Int.natAbs_pow]
      rfl
    have hten : 10 ^ 20 ≤ 10 ^ k := Nat.pow_le_pow_right (by decide) (by omega)
    have hge : 10 ^ 20 ≤ q.natAbs * 10 ^ k := Nat.le_trans hten (Nat.le_mul_of_pos_left _ (Nat.pos_of_ne_zero hq0))
    have hlt : a.coefficient.natAbs * b.coefficient.natAbs < 2 ^ 32 * 2 ^ 32 := Nat.mul_lt_mul'' ha hb
    rw [hmul] at hlt
    omega
  rw [if_neg hlarge]
  exact reduce_of_representable h

/-! ## Quotients -/

theorem find?_reverse_range {f : Nat → Bool} {n j : Nat} (hj : j < n) (hf : f j = true) :
    ∃ k, (List.range n).reverse.find? f = some k ∧ f k = true ∧ j ≤ k ∧ k < n := by
  induction n with
  | zero => exact absurd hj (Nat.not_lt_zero j)
  | succ n ih =>
    rw [List.range_succ, List.reverse_append, List.reverse_singleton, List.singleton_append, List.find?_cons]
    cases hn : f n with
    | true => exact ⟨n, rfl, hn, Nat.le_of_lt_succ hj, Nat.lt_succ_self n⟩
    | false =>
      have hlt : j < n := by
        refine Nat.lt_of_le_of_ne (Nat.le_of_lt_succ hj) ?_
        rintro rfl
        cases hf.symm.trans hn
      obtain ⟨k, hk, hfk, hjk, hkn⟩ := ih hlt
      exact ⟨k, hk, hfk, hjk, Nat.lt_succ_of_lt hkn⟩

namespace Quotient

variable {divisor m t : Nat} {q : Quotient}

/-- The quotient in the making is worth `m / 10 ^ t`. Scales are counted from -28. -/
structure Denotes (divisor m t : Nat) (q : Quotient) : Prop where
  remainder_lt : q.remainder < divisor
  quotient_lt : q.quotient < 2 ^ 96
  le_scale : -28 ≤ q.scale
  scale_le : q.scale ≤ 28
  value : (q.quotient * divisor + q.remainder) * 10 ^ (t + 28) = m * divisor * 10 ^ (q.scale + 28).toNat

/-- The finished quotient is worth `m / 10 ^ t`. -/
structure Result (m t : Nat) (q : Quotient) : Prop where
  quotient_lt : q.quotient < 2 ^ 96
  scale_nonneg : 0 ≤ q.scale
  scale_le : q.scale ≤ 28
  value : q.quotient * 10 ^ t = m * 10 ^ q.scale.toNat

theorem Denotes.mul_pow_le (h : q.Denotes divisor m t) {j : Nat} (hj : q.scale + j ≤ t) : q.quotient * 10 ^ j ≤ m := by
  have hdivisor : 0 < divisor := Nat.zero_lt_of_lt h.remainder_lt
  obtain ⟨i, hi⟩ := Nat.exists_eq_add_of_le (show (q.scale + 28).toNat + j ≤ t + 28 by have := h.le_scale; omega)
  have hvalue := h.value
  rw [hi, Nat.add_assoc, pow_add, ← Nat.mul_assoc, Nat.mul_right_comm] at hvalue
  have hcut := Nat.eq_of_mul_eq_mul_right (Nat.pow_pos (by decide)) hvalue
  refine Nat.le_of_mul_le_mul_right ?_ hdivisor
  calc q.quotient * 10 ^ j * divisor = q.quotient * divisor * 10 ^ j := Nat.mul_right_comm _ _ _
    _ ≤ (q.quotient * divisor + q.remainder) * 10 ^ (j + i) :=
      Nat.mul_le_mul (Nat.le_add_right _ _) (Nat.pow_le_pow_right (by decide) (Nat.le_add_right j i))
    _ = m * divisor := hcut

theorem Denotes.scale_lt (h : q.Denotes divisor m t) (hr : q.remainder ≠ 0) : q.scale < t := by
  by_contra hle
  obtain ⟨i, hi⟩ := Nat.exists_eq_add_of_le (show t + 28 ≤ (q.scale + 28).toNat by omega)
  have hvalue := h.value
  rw [hi, pow_add 10 (t + 28) i, Nat.mul_comm (10 ^ (t + 28)), ← Nat.mul_assoc] at hvalue
  have hcut : q.quotient * divisor + q.remainder = m * 10 ^ i * divisor := by
    rw [Nat.eq_of_mul_eq_mul_right (Nat.pow_pos (by decide)) hvalue, Nat.mul_right_comm]
  have hdvd : divisor ∣ q.remainder :=
    (Nat.dvd_add_right (Nat.dvd_mul_left divisor q.quotient)).mp (hcut ▸ Nat.dvd_mul_left divisor _)
  exact hr (Nat.eq_zero_of_dvd_of_lt hdvd h.remainder_lt)

theorem Denotes.result (h : q.Denotes divisor m t) (hr : q.remainder = 0) (hscale : 0 ≤ q.scale) : q.Result m t := by
  have hdivisor : 0 < divisor := Nat.zero_lt_of_lt h.remainder_lt
  refine ⟨h.quotient_lt, hscale, h.scale_le, ?_⟩
  have hvalue := h.value
  rw [hr, Nat.add_zero, show (q.scale + 28).toNat = q.scale.toNat + 28 by omega, pow_add, pow_add, ← Nat.mul_assoc,
    ← Nat.mul_assoc, Nat.mul_right_comm q.quotient, Nat.mul_right_comm m] at hvalue
  exact Nat.eq_of_mul_eq_mul_right hdivisor (Nat.eq_of_mul_eq_mul_right (Nat.pow_pos (by decide)) hvalue)

theorem Result.congr {q' : Quotient} (h : q.Result m t) {k : Nat} (hquotient : q.quotient = q'.quotient * 10 ^ k)
    (hscale : q.scale = q'.scale + k) (hnonneg : 0 ≤ q'.scale) : q'.Result m t := by
  have hpos : 0 < 10 ^ k := Nat.pow_pos (by decide)
  refine ⟨?_, hnonneg, by have := h.scale_le; omega, ?_⟩
  · exact Nat.lt_of_le_of_lt (hquotient ▸ Nat.le_mul_of_pos_right _ hpos) h.quotient_lt
  · have hvalue := h.value
    rw [hquotient, show q.scale.toNat = q'.scale.toNat + k by omega, pow_add, ← Nat.mul_assoc,
      Nat.mul_right_comm] at hvalue
    exact Nat.eq_of_mul_eq_mul_right hpos hvalue

theorem growth_spec {j : Nat} (hscale : q.scale + j ≤ 28) (hfits : q.quotient * 10 ^ j < 2 ^ 96) :
    min 9 j ≤ q.growth ∧ q.growth ≤ 9 ∧ q.scale + q.growth ≤ 28 ∧ q.quotient * 10 ^ q.growth < 2 ^ 96 := by
  have hmin : q.quotient * 10 ^ min 9 j < 2 ^ 96 :=
    Nat.lt_of_le_of_lt (Nat.mul_le_mul_left _ (Nat.pow_le_pow_right (by decide) (Nat.min_le_right 9 j))) hfits
  obtain ⟨k, hk, hf, hjk, hlt⟩ := find?_reverse_range (n := 10) (j := min 9 j)
    (f := fun k => decide (q.scale + k ≤ 28 ∧ q.quotient * 10 ^ k < 2 ^ 96)) (by omega)
    (decide_eq_true ⟨by omega, hmin⟩)
  have hgrowth : q.growth = k := by
    rw [growth, hk]
    rfl
  rw [hgrowth]
  exact ⟨hjk, Nat.le_of_lt_succ hlt, (of_decide_eq_true hf).1, (of_decide_eq_true hf).2⟩

theorem Denotes.extend (h : q.Denotes divisor m t) {k : Nat} (hscale : q.scale + k ≤ 28)
    (hfits : q.quotient * 10 ^ k < 2 ^ 96) :
    ∃ longer, q.extend divisor k = some longer ∧ longer.scale = q.scale + k ∧
      longer.quotient < 2 ^ 96 + 10 ^ k ∧
      (longer.quotient < 2 ^ 96 → longer.Denotes divisor m t) ∧
      longer.remainder < divisor ∧
      (longer.quotient * divisor + longer.remainder) * 10 ^ (t + 28) =
        m * divisor * 10 ^ (longer.scale + 28).toNat := by
  have hdivisor : 0 < divisor := Nat.zero_lt_of_lt h.remainder_lt
  have hle := h.le_scale
  have hremainder : q.remainder * 10 ^ k % divisor < divisor := Nat.mod_lt _ hdivisor
  have hcarry : q.remainder * 10 ^ k / divisor < 10 ^ k := by
    rw [Nat.div_lt_iff_lt_mul hdivisor, Nat.mul_comm]
    exact Nat.mul_lt_mul_of_pos_left h.remainder_lt (Nat.pow_pos (by decide))
  have hvalue : ((q.quotient * 10 ^ k + q.remainder * 10 ^ k / divisor) * divisor + q.remainder * 10 ^ k % divisor) *
      10 ^ (t + 28) = m * divisor * 10 ^ (q.scale + k + 28).toNat := by
    rw [show (q.scale + k + 28).toNat = (q.scale + 28).toNat + k by omega, pow_add 10 (q.scale + 28).toNat k,
      ← Nat.mul_assoc, ← h.value, Nat.add_mul _ _ divisor, Nat.add_assoc, Nat.div_add_mod']
    ring
  exact ⟨_, if_pos hfits, rfl, Nat.add_lt_add hfits hcarry,
    fun hlt => ⟨hremainder, hlt, by show _ ≤ q.scale + k; omega, hscale, hvalue⟩, hremainder, hvalue⟩

theorem result_shorten {k : Nat} (hlarge : 2 ^ 96 ≤ q.quotient) (hsmall : q.quotient < 2 ^ 96 + 10 ^ k) (hk : k ≤ 9)
    (hle : -28 ≤ q.scale) (hscale : q.scale ≤ 28) (hm : m < 2 ^ 96) (hremainder : q.remainder < divisor)
    (value : (q.quotient * divisor + q.remainder) * 10 ^ (t + 28) = m * divisor * 10 ^ (q.scale + 28).toNat) :
    ∃ shorter, q.shorten divisor = some shorter ∧ shorter.Result m t := by
  have hdivisor : 0 < divisor := Nat.zero_lt_of_lt hremainder
  have hplaces : (t : Int) + 1 ≤ q.scale := by
    by_contra hmore
    obtain ⟨i, hi⟩ := Nat.exists_eq_add_of_le (show (q.scale + 28).toNat ≤ t + 28 by omega)
    rw [hi, pow_add, Nat.mul_comm (10 ^ _), ← Nat.mul_assoc] at value
    have hcut := Nat.eq_of_mul_eq_mul_right (Nat.pow_pos (by decide)) value
    have hmul : q.quotient * divisor ≤ m * divisor := by
      rw [← hcut]
      exact Nat.le_trans (Nat.le_add_right _ _) (Nat.le_mul_of_pos_right _ (Nat.pow_pos (by decide)))
    exact absurd (Nat.le_of_mul_le_mul_right hmul hdivisor) (by omega)
  obtain ⟨i, hi⟩ := Int.eq_ofNat_of_zero_le (show 0 ≤ q.scale - 1 - t by omega)
  have hexact : q.quotient * divisor + q.remainder = m * 10 ^ i * (10 * divisor) := by
    refine Nat.eq_of_mul_eq_mul_right (Nat.pow_pos (n := t + 28) (show 0 < 10 by decide)) (value.trans ?_)
    rw [show (q.scale + 28).toNat = i + 1 + (t + 28) by omega, pow_add, pow_succ]
    ring
  have hrounded : Rounding.halfToEven.divide (q.quotient * divisor + q.remainder) (10 * divisor) = m * 10 ^ i := by
    rw [hexact, Rounding.divide_mul _ _ (Nat.mul_pos (by decide) hdivisor)]
  refine ⟨_, if_neg (by omega), ?_, ?_, ?_, ?_⟩
  · rw [hrounded]
    have hbound : m * 10 ^ i * (10 * divisor) < (2 ^ 96 + 10 ^ 9 + 1) * divisor := by
      rw [← hexact]
      have hten : 10 ^ k ≤ 10 ^ 9 := Nat.pow_le_pow_right (by decide) hk
      calc q.quotient * divisor + q.remainder < q.quotient * divisor + 1 * divisor := by omega
        _ = (q.quotient + 1) * divisor := (Nat.add_mul _ _ _).symm
        _ ≤ (2 ^ 96 + 10 ^ 9 + 1) * divisor := Nat.mul_le_mul_right _ (by omega)
    rw [← Nat.mul_assoc] at hbound
    have hten := Nat.lt_of_mul_lt_mul_right hbound
    show m * 10 ^ i < 2 ^ 96
    omega
  · show 0 ≤ q.scale - 1
    omega
  · show q.scale - 1 ≤ 28
    omega
  · show _ * 10 ^ t = m * 10 ^ (q.scale - 1).toNat
    rw [hrounded, show (q.scale - 1).toNat = i + t by omega, pow_add, Nat.mul_assoc]

theorem Denotes.divide (h : q.Denotes divisor m t) (hm : m < 2 ^ 96) (ht : t ≤ 28) {rounds : Nat}
    (hrounds : 28 - q.scale < rounds) : ∃ result, q.divide divisor rounds = some result ∧ result.Result m t := by
  induction rounds generalizing q with
  | zero =>
    have := h.scale_le
    omega
  | succ rounds ih =>
    rw [Quotient.divide]
    by_cases hr : q.remainder = 0
    · rw [if_pos hr]
      by_cases hscale : 0 ≤ q.scale
      · exact ⟨q, if_pos hscale, h.result hr hscale⟩
      · rw [if_neg hscale]
        have hk : q.scale + (min 9 (-q.scale).toNat : Nat) ≤ 0 := by omega
        have hfits : q.quotient * 10 ^ min 9 (-q.scale).toNat < 2 ^ 96 :=
          Nat.lt_of_le_of_lt (h.mul_pow_le (by omega)) hm
        obtain ⟨longer, hextend, hlonger, -, hdenotes, -, -⟩ := h.extend (by omega) hfits
        have hquotient : longer.quotient < 2 ^ 96 := by
          rw [Quotient.extend, if_pos hfits] at hextend
          cases hextend
          simpa [hr] using hfits
        rw [hextend, Option.bind_some]
        exact ih (hdenotes hquotient) (by omega)
    · rw [if_neg hr]
      have hlt := h.scale_lt hr
      obtain ⟨j, hj⟩ := Int.eq_ofNat_of_zero_le (show 0 ≤ t - q.scale by omega)
      have hmarked : Denotes divisor m t { q with inexact := true } := { h with }
      obtain ⟨hmin, hnine, hscale, hfits⟩ := growth_spec (q := { q with inexact := true }) (j := j)
        (show q.scale + j ≤ 28 by omega) (Nat.lt_of_le_of_lt (h.mul_pow_le (by omega)) hm)
      dsimp only
      generalize growth { q with inexact := true } = k at hmin hnine hscale hfits ⊢
      have hreaches : ¬ (k < 9 ∧ q.scale ≠ 28 ∧ q.scale + k < 0) := by omega
      have hsome : ¬ k = 0 := by omega
      rw [if_neg hreaches, if_neg hsome]
      obtain ⟨longer, hextend, hlonger, hsmall, hdenotes, hremainder, hvalue⟩ := hmarked.extend hscale hfits
      rw [hextend, Option.bind_some]
      have hle := h.le_scale
      dsimp only at hlonger hscale
      by_cases hquotient : longer.quotient < 2 ^ 96
      · rw [if_pos hquotient]
        exact ih (hdenotes hquotient) (by omega)
      · rw [if_neg hquotient]
        exact result_shorten (Nat.le_of_not_lt hquotient) hsmall hnine (by omega) (by omega) hm hremainder hvalue

/-! ### Zeros at the end -/

theorem Result.strip (h : q.Result m t) (k : Nat) : (q.strip k).Result m t := by
  unfold Quotient.strip
  split
  case isTrue hzeros =>
    have hquotient : q.quotient = q.quotient / 10 ^ k * 10 ^ k :=
      (Nat.div_mul_cancel (Nat.dvd_of_mod_eq_zero hzeros.2)).symm
    exact h.congr (k := k) hquotient (by show q.scale = q.scale - k + k; omega) (by show 0 ≤ q.scale - k; omega)
  case isFalse => exact h

theorem Result.stripEights (h : q.Result m t) (rounds : Nat) : (q.stripEights rounds).Result m t := by
  induction rounds generalizing q with
  | zero => exact h
  | succ rounds ih =>
    rw [Quotient.stripEights]
    split
    · exact ih (h.strip 8)
    · exact h

theorem Result.stripZeros (h : q.Result m t) : q.stripZeros.Result m t :=
  (((h.stripEights 4).strip 4).strip 2).strip 1

end Quotient

theorem toRat_eq_sign_mul (d : Decimal) : d.toRat = d.coefficient.sign * (d.coefficient.natAbs / 10 ^ d.scale) := by
  rw [toRat, ← mul_div_assoc, Nat.cast_natAbs]
  congr 1
  exact_mod_cast (Int.sign_mul_abs d.coefficient).symm

theorem abs_toRat (d : Decimal) : |d.toRat| = d.coefficient.natAbs / 10 ^ d.scale := by
  rw [toRat, abs_div, abs_of_pos (by positivity : (0 : ℚ) < 10 ^ d.scale), Nat.cast_natAbs, Int.cast_abs]

theorem Quotient.denotes_start {a b : Decimal} (hb : b.coefficient ≠ 0) {m t : Nat}
    (hvalue : (a.coefficient.natAbs / 10 ^ a.scale : ℚ) / (b.coefficient.natAbs / 10 ^ b.scale) = m / 10 ^ t) :
    Quotient.Denotes b.coefficient.natAbs m t ⟨a.coefficient.natAbs / b.coefficient.natAbs,
      a.coefficient.natAbs % b.coefficient.natAbs, a.scale - b.scale, false⟩ := by
  have hd : b.coefficient.natAbs ≠ 0 := Int.natAbs_ne_zero.mpr hb
  have ha := a.scale_le
  have hbs := b.scale_le
  refine ⟨Nat.mod_lt _ (Nat.pos_of_ne_zero hd), Nat.lt_of_le_of_lt (Nat.div_le_self _ _) a.coefficient_lt, ?_, ?_, ?_⟩
  · show (-28 : Int) ≤ a.scale - b.scale
    omega
  · show (a.scale - b.scale : Int) ≤ 28
    omega
  show (a.coefficient.natAbs / b.coefficient.natAbs * b.coefficient.natAbs +
    a.coefficient.natAbs % b.coefficient.natAbs) * 10 ^ (t + 28) =
      m * b.coefficient.natAbs * 10 ^ ((a.scale - b.scale : Int) + 28).toNat
  rw [Nat.div_add_mod']
  have hcross : a.coefficient.natAbs * 10 ^ b.scale * 10 ^ t = m * b.coefficient.natAbs * 10 ^ a.scale := by
    have hdq : (b.coefficient.natAbs : ℚ) ≠ 0 := Nat.cast_ne_zero.mpr hd
    rw [div_div_div_eq, div_eq_div_iff (by positivity) (by positivity)] at hvalue
    rw [Nat.mul_assoc m, Nat.mul_comm b.coefficient.natAbs]
    exact_mod_cast hvalue
  refine Nat.eq_of_mul_eq_mul_right (Nat.pow_pos (n := b.scale) (show 0 < 10 by decide)) ?_
  rw [Nat.mul_assoc (m * _), ← pow_add, show ((a.scale - b.scale : Int) + 28).toNat + b.scale = a.scale + 28 by omega,
    pow_add 10 a.scale, ← Nat.mul_assoc (m * _), ← hcross, pow_add]
  ring

theorem Quotient.Result.signed {a b : Decimal} (ha : a.coefficient ≠ 0) (hb : b.coefficient ≠ 0) {m t : Nat}
    {q : Quotient} (h : q.Result m t)
    (hvalue : (a.coefficient.natAbs / 10 ^ a.scale : ℚ) / (b.coefficient.natAbs / 10 ^ b.scale) = m / 10 ^ t) :
    ∃ c, ofParts? (a.coefficient.sign * b.coefficient.sign * q.quotient) q.scale.toNat = some c ∧
      c.toRat = a.toRat / b.toRat := by
  have hnatAbs : (a.coefficient.sign * b.coefficient.sign * q.quotient).natAbs = q.quotient := by
    rw [Int.natAbs_mul, Int.natAbs_mul, Int.natAbs_sign_of_ne_zero ha, Int.natAbs_sign_of_ne_zero hb]
    exact Nat.one_mul _
  obtain ⟨c, hc⟩ : ∃ c, ofParts? (a.coefficient.sign * b.coefficient.sign * q.quotient) q.scale.toNat = some c :=
    ⟨_, dif_pos ⟨lt_of_eq_of_lt hnatAbs h.quotient_lt, by have := h.scale_le; omega⟩⟩
  refine ⟨c, hc, ?_⟩
  have hquotient : (q.quotient : ℚ) / 10 ^ q.scale.toNat = m / 10 ^ t := by
    rw [div_eq_div_iff (by positivity) (by positivity)]
    exact_mod_cast h.value
  have hsign : (b.coefficient.sign : ℚ)⁻¹ = b.coefficient.sign := by
    rcases Int.lt_or_gt_of_ne hb with hneg | hpos
    · simp [Int.sign_eq_neg_one_of_neg hneg]
    · simp [Int.sign_eq_one_of_pos hpos]
  rw [toRat_of_ofParts? hc]
  calc ((a.coefficient.sign * b.coefficient.sign * q.quotient : Int) : ℚ) / 10 ^ q.scale.toNat
      = a.coefficient.sign * b.coefficient.sign * (q.quotient / 10 ^ q.scale.toNat) := by
        rw [← mul_div_assoc]
        push_cast
        rfl
    _ = a.coefficient.sign * (b.coefficient.sign : ℚ)⁻¹ *
          ((a.coefficient.natAbs / 10 ^ a.scale) / (b.coefficient.natAbs / 10 ^ b.scale)) := by
        rw [hquotient, hvalue, hsign]
    _ = a.toRat / b.toRat := by
        rw [toRat_eq_sign_mul a, toRat_eq_sign_mul b, mul_div_mul_comm, div_eq_mul_inv (a.coefficient.sign : ℚ)]

theorem div?_of_representable {a b : Decimal} (hb : b.coefficient ≠ 0) (h : Representable (a.toRat / b.toRat)) :
    ∃ c, a.div? b = some c ∧ c.toRat = a.toRat / b.toRat := by
  unfold div?
  rw [if_neg hb]
  by_cases ha : a.coefficient = 0
  · refine ⟨zero, if_pos ha, ?_⟩
    rw [toRat_zero, toRat_of_coefficient_eq_zero ha, zero_div]
  rw [if_neg ha]
  obtain ⟨x, hx⟩ := h
  have hvalue : (a.coefficient.natAbs / 10 ^ a.scale : ℚ) / (b.coefficient.natAbs / 10 ^ b.scale) =
      x.coefficient.natAbs / 10 ^ x.scale := by
    rw [← abs_toRat, ← abs_toRat, ← abs_toRat, hx, abs_div]
  have hrounds : 28 - (a.scale - b.scale : Int) < (64 : Nat) := by
    have := b.scale_le
    omega
  obtain ⟨q, hq, hresult⟩ := (Quotient.denotes_start hb hvalue).divide x.coefficient_lt x.scale_le hrounds
  dsimp only
  rw [hq, Option.bind_some]
  split
  · exact hresult.stripZeros.signed ha hb hvalue
  · exact hresult.signed ha hb hvalue

end Decimal
end Settlement
