import Settlement.Exchange
import Settlement.Proofs.Decimal.Places
import Settlement.Proofs.Decimal.Quotient

/-! Percentage fees. As long as the product has a coefficient that fits, nothing is rounded on the way to the fee, so
the fee is one rounding of the exact percentage and the net amount makes up for it. A net amount above zero makes up for
any fee, as far as there is room for the places of both. -/
namespace Settlement
open Decimal
namespace Exchange

variable {amount percent : Decimal}

/-- The amounts for which each intermediate number of a fee can be held. -/
structure FeeFits (amount percent : Decimal) : Prop where
  positive : amount.Positive
  percent_nonneg : zero ≤ percent
  percent_le : percent ≤ hundred
  scale_le : amount.scale + percent.scale + 2 ≤ 28
  small : amount.toRat * 10 ^ (amount.scale + percent.scale + 2) < 2 ^ 96

namespace FeeFits

theorem toRat_pos (h : FeeFits amount percent) : 0 < amount.toRat := positive_iff_toRat.mp h.positive

theorem percent_toRat (h : FeeFits amount percent) : 0 ≤ percent.toRat ∧ percent.toRat ≤ 100 := by
  have hle := le_iff_toRat.mp h.percent_le
  have hge := le_iff_toRat.mp h.percent_nonneg
  rw [toRat_zero] at hge
  rw [hundred, toRat_ofNat] at hle
  exact ⟨hge, hle⟩

theorem share_nonneg (h : FeeFits amount percent) : 0 ≤ amount.toRat * percent.toRat / 100 :=
  div_nonneg (mul_nonneg h.toRat_pos.le h.percent_toRat.1) (by norm_num)

theorem share_le (h : FeeFits amount percent) : amount.toRat * percent.toRat / 100 ≤ amount.toRat := by
  rw [div_le_iff₀ (by norm_num)]
  exact mul_le_mul_of_nonneg_left h.percent_toRat.2 h.toRat_pos.le

theorem share_multipleOf (amount percent : Decimal) :
    MultipleOf (amount.scale + percent.scale + 2) (amount.toRat * percent.toRat / 100) :=
  ((amount.multipleOf_toRat le_rfl).mul (percent.multipleOf_toRat le_rfl)).div_hundred

theorem product_representable (h : FeeFits amount percent) : Representable (amount.toRat * percent.toRat) := by
  have hscale := h.scale_le
  refine ((amount.multipleOf_toRat le_rfl).mul (percent.multipleOf_toRat le_rfl)).representable (by omega) ?_
  rw [abs_of_nonneg (mul_nonneg h.toRat_pos.le h.percent_toRat.1), lt_div_iff₀ (by positivity)]
  calc amount.toRat * percent.toRat * 10 ^ (amount.scale + percent.scale)
      = amount.toRat * percent.toRat / 100 * 10 ^ (amount.scale + percent.scale + 2) := by
        rw [pow_add _ _ 2]
        ring
    _ ≤ amount.toRat * 10 ^ (amount.scale + percent.scale + 2) :=
        mul_le_mul_of_nonneg_right h.share_le (by positivity)
    _ < 2 ^ 96 := h.small

theorem share_representable (h : FeeFits amount percent) : Representable (amount.toRat * percent.toRat / 100) := by
  refine (share_multipleOf amount percent).representable h.scale_le ?_
  rw [abs_of_nonneg h.share_nonneg]
  refine lt_of_le_of_lt h.share_le ?_
  rw [lt_div_iff₀ (by positivity)]
  exact h.small

/-- What remains may be negative where the amount is finer than the unit, but not by more than half a unit. -/
theorem net_representable (h : FeeFits amount percent) (places : Nat) :
    Representable (amount.toRat - halfUp places (amount.toRat * percent.toRat / 100)) := by
  have hgrid : MultipleOf (amount.scale + percent.scale + 2) amount.toRat := amount.multipleOf_toRat (by omega)
  refine (hgrid.sub ((share_multipleOf amount percent).halfUp places)).representable h.scale_le ?_
  have hfee : 0 ≤ halfUp places (amount.toRat * percent.toRat / 100) := halfUp_nonneg h.share_nonneg
  have hnear := halfUp_le places (amount.toRat * percent.toRat / 100)
  have hhalf : (1 / 2 / 10 ^ places : ℚ) ≤ 1 / 2 := div_le_self (by norm_num) (one_le_pow₀ (by norm_num))
  have hsmall : amount.toRat < 2 ^ 96 / 10 ^ (amount.scale + percent.scale + 2) := by
    rw [lt_div_iff₀ (by positivity)]
    exact h.small
  have hroom : (1 / 2 : ℚ) < 2 ^ 96 / 10 ^ (amount.scale + percent.scale + 2) := by
    have hpow : (10 : ℚ) ^ (amount.scale + percent.scale + 2) ≤ 10 ^ 28 :=
      pow_le_pow_right₀ (by norm_num) h.scale_le
    rw [lt_div_iff₀ (by positivity)]
    linarith
  rw [abs_lt]
  constructor
  · linarith [h.share_le]
  · linarith

end FeeFits

/-- The fee is the exact percentage, rounded once, and the fee and the net amount add up to the amount. For an amount in
whole units neither of the two is negative or above the amount. -/
theorem computeFee_exact (currency : Currency) (h : FeeFits amount percent) :
    ∃ b, computeFee amount percent currency = .ok b ∧ b.feePercent = percent ∧
      b.fee.toRat = halfUp currency.scale.toNat (amount.toRat * percent.toRat / 100) ∧
      b.fee.toRat + b.net.toRat = amount.toRat ∧
      (∃ total, b.fee.add? b.net = some total ∧ total.SameValue amount) ∧
      (MultipleOf currency.scale.toNat amount.toRat →
        (zero ≤ b.fee ∧ b.fee ≤ amount) ∧ zero ≤ b.net ∧ b.net ≤ amount) := by
  obtain ⟨product, hproduct, hproductValue⟩ := mul?_of_representable h.product_representable
  have hhundred : hundred.toRat = 100 := toRat_ofNat 100 _
  obtain ⟨raw, hraw, hrawValue⟩ := div?_of_representable (a := product) (b := hundred) (by decide)
    (by rw [hproductValue, hhundred]; exact h.share_representable)
  rw [hproductValue, hhundred] at hrawValue
  have hfee : (currency.roundHalfUp raw).toRat = halfUp currency.scale.toNat (amount.toRat * percent.toRat / 100) := by
    rw [Currency.roundHalfUp, toRat_round (hrawValue ▸ h.share_nonneg), hrawValue]
  obtain ⟨net, hnet, hnetValue⟩ := sub?_of_representable (a := amount) (b := currency.roundHalfUp raw)
    (by rw [hfee]; exact h.net_representable _)
  have hsum : (currency.roundHalfUp raw).toRat + net.toRat = amount.toRat := by
    rw [hnetValue]
    ring
  refine ⟨⟨percent, currency.roundHalfUp raw, net⟩, ?_, rfl, hfee, hsum, ?_, fun hunit => ?_⟩
  · rw [computeFee, check, if_pos h.positive, check, if_pos ⟨h.percent_nonneg, h.percent_le⟩]
    simp [hproduct, hraw, hnet, require, unguarded, bind, Except.bind, pure, Except.pure]
  · obtain ⟨total, htotal, hvalue⟩ :=
      add?_of_representable (a := currency.roundHalfUp raw) (b := net) ⟨amount, hsum.symm⟩
    exact ⟨total, htotal, sameValue_iff_toRat.mpr (hvalue.trans hsum)⟩
  · have hnonneg : 0 ≤ (currency.roundHalfUp raw).toRat := hfee ▸ halfUp_nonneg h.share_nonneg
    have hle : (currency.roundHalfUp raw).toRat ≤ amount.toRat := by
      rw [hfee]
      exact le_of_le_of_eq (halfUp_mono h.share_le) (halfUp_of_multipleOf hunit)
    simp only [le_iff_toRat, toRat_zero]
    exact ⟨⟨hnonneg, hle⟩, by linarith, by linarith⟩

/-- One percent of half a unit is half a cent, which is rounded up. -/
theorem computeFee_half_cent :
    FeeFits (ofParts 50 2) (ofParts 1 0) ∧
    ∃ b, computeFee (ofParts 50 2) (ofParts 1 0) (Currency.fiat "usd") = .ok b ∧
      b.fee.toRat = 1 / 100 ∧ b.net.toRat = 49 / 100 ∧ zero ≤ b.net ∧ b.net ≤ ofParts 50 2 := by
  have hamount : (ofParts 50 2).toRat = 1 / 2 := by norm_num [toRat, ofParts]
  have hpercent : (ofParts 1 0).toRat = 1 := by norm_num [toRat, ofParts]
  have hfits : FeeFits (ofParts 50 2) (ofParts 1 0) :=
    ⟨by decide, by decide, by decide, by decide, by rw [hamount]; norm_num [ofParts]⟩
  obtain ⟨b, hb, -, hfee, hsum, -, hunit⟩ := computeFee_exact (Currency.fiat "usd") hfits
  have hscale : (Currency.fiat "usd").scale.toNat = 2 := rfl
  rw [hamount, hpercent, hscale] at hfee
  have hcent : b.fee.toRat = 1 / 100 := by
    rw [hfee]
    norm_num [halfUp]
  rw [hamount, hcent] at hsum
  obtain ⟨-, hnet⟩ := hunit ⟨50, rfl⟩
  exact ⟨hfits, b, hb, hcent, by linarith, hnet⟩

/-! ## Net amounts above zero -/

variable {currency : Currency} {b : FeeBreakdown}

theorem fee_of_computeFee (h : computeFee amount percent currency = .ok b) :
    0 ≤ b.fee.toRat ∧ b.fee.scale ≤ currency.scale.toNat ∧ amount.sub? b.fee = some b.net := by
  simp only [computeFee, bind_eq_ok, check_eq_ok, require_eq_ok, unguarded_eq_ok, pure, Except.pure,
    Except.ok.injEq] at h
  obtain ⟨-, hamount, -, ⟨hpercent, -⟩, product, hproduct, raw, hraw, net, hnet, rfl⟩ := h
  rw [le_iff_toRat, toRat_zero] at hpercent
  have hraw' : 0 ≤ raw.toRat := by
    refine div?_nonneg (mul?_nonneg (positive_iff_toRat.mp hamount).le hpercent hproduct) ?_ hraw
    rw [hundred, toRat_ofNat]
    norm_num
  exact ⟨round_nonneg _ hraw' _, scale_round_le _ _ raw, hnet⟩

theorem computeFee_net_positive_iff (h : computeFee amount percent currency = .ok b) :
    b.net.Positive ↔ b.fee.toRat < amount.toRat :=
  sub?_positive_iff (fee_of_computeFee h).2.2

theorem net_le_of_computeFee (h : computeFee amount percent currency = .ok b) (hnet : b.net.Positive) :
    b.net.toRat ≤ amount.toRat := by
  obtain ⟨hfee, -, hsub⟩ := fee_of_computeFee h
  have hlt := (computeFee_net_positive_iff h).mp hnet
  have hrange : |amount.toRat - b.fee.toRat| ≤ amount.toRat := abs_le.mpr ⟨by linarith, by linarith⟩
  obtain ⟨net, hnet', hle⟩ := sub?_of_abs_le hrange
  cases hnet'.symm.trans hsub
  exact (abs_le.mp hle).2

theorem net_multipleOf_of_computeFee (h : computeFee amount percent currency = .ok b) (hnet : b.net.Positive) {s : Nat}
    (hs : s ≤ 28) (hunit : currency.scale.toNat ≤ s) (hamount : MultipleOf s amount.toRat)
    (hsmall : amount.toRat < 2 ^ 96 / 10 ^ s) : MultipleOf s b.net.toRat := by
  obtain ⟨hfee, hscale, hsub⟩ := fee_of_computeFee h
  have hlt := (computeFee_net_positive_iff h).mp hnet
  have hexact : MultipleOf s (amount.toRat - b.fee.toRat) :=
    hamount.sub (b.fee.multipleOf_toRat (hscale.trans hunit))
  have hfits : Representable (amount.toRat - b.fee.toRat) :=
    hexact.representable hs (abs_lt.mpr ⟨by linarith, by linarith⟩)
  obtain ⟨net, hnet', hvalue⟩ := sub?_of_representable hfits
  cases hnet'.symm.trans hsub
  rwa [hvalue]

end Exchange
end Settlement
