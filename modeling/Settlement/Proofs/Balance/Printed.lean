import Settlement.Proofs.Balance.Exact
import Settlement.Proofs.Decimal.Places

/-! Balances as they are printed. Each number is rounded on its own, so the numbers of a balance that conserves money
need not add up where they are printed. They miss each other by two units at most. -/
namespace Settlement

open Decimal

/-- How much more came in and was not paid out than is available or pending. -/
def ExactBalance.gap (x : ExactBalance) : ℚ := x.totalReceived - x.totalPaidOut - (x.available + x.pending)

namespace Balance

variable {b : Balance}

/-- The numbers that are printed of a balance with so many places. -/
def shown (b : Balance) (places : Nat) : ExactBalance where
  available := (b.available.round .halfToEven places).toRat
  pending := (b.pending.round .halfToEven places).toRat
  totalReceived := (b.totalReceived.round .halfToEven places).toRat
  totalPaidOut := (b.totalPaidOut.round .halfToEven places).toRat

theorem shown_of_onGrid {places : Nat} (h : b.exact.OnGrid places) : b.shown places = b.exact := by
  simp only [shown, exact, toRat_round_of_multipleOf _ h.available, toRat_round_of_multipleOf _ h.pending,
    toRat_round_of_multipleOf _ h.totalReceived, toRat_round_of_multipleOf _ h.totalPaidOut]

theorem abs_gap_shown_sub_le (b : Balance) (places : Nat) : |(b.shown places).gap - b.exact.gap| ≤ 2 / 10 ^ places := by
  have havailable := abs_le.mp (b.available.abs_rounded_sub_le places)
  have hpending := abs_le.mp (b.pending.abs_rounded_sub_le places)
  have hreceived := abs_le.mp (b.totalReceived.abs_rounded_sub_le places)
  have hpaid := abs_le.mp (b.totalPaidOut.abs_rounded_sub_le places)
  have hunits : (2 / 10 ^ places : ℚ) = 4 * (1 / 2 / 10 ^ places) := by ring
  rw [hunits, abs_le]
  simp only [ExactBalance.gap, shown, exact]
  exact ⟨by linarith, by linarith⟩

theorem checked_opened (merchant : MerchantId) (now : Instant) : (Balance.opened merchant now).Checked :=
  ⟨le_iff_toRat.mpr le_rfl, le_iff_toRat.mpr le_rfl, .zero, .zero, rfl, rfl, rfl⟩

theorem checked_of_apply {next : Balance} {op : LedgerOp} {now : Instant} (h : b.apply op now = .ok next) :
    next.Checked := by
  obtain ⟨-, m, -, hchecked, rfl⟩ := apply_eq_ok.mp h
  exact ⟨hchecked.available_nonneg, hchecked.pending_nonneg, hchecked.kept_eq_held⟩

namespace Checked

theorem nonneg (h : b.Checked) : 0 ≤ b.available.toRat ∧ 0 ≤ b.pending.toRat := by
  have havailable := le_iff_toRat.mp h.available_nonneg
  have hpending := le_iff_toRat.mp h.pending_nonneg
  rw [toRat_zero] at havailable hpending
  exact ⟨havailable, hpending⟩

/-- The check compares rounded sums, so it leaves the gap that two rounding errors make. -/
theorem abs_gap_le (h : b.Checked) : |b.exact.gap| ≤ (b.available.toRat + b.pending.toRat) / 10 ^ 27 := by
  obtain ⟨kept, held, hkept, hheld, hsame⟩ := h.kept_eq_held
  obtain ⟨havailable, hpending⟩ := h.nonneg
  have hk := abs_roundingError_le b.totalReceived b.totalPaidOut.neg
  have hh := abs_roundingError_le b.available b.pending
  rw [sameValue_iff_toRat, toRat_of_sub? hkept, toRat_of_add? hheld] at hsame
  rw [toRat_neg, ← sub_eq_add_neg] at hk
  rw [abs_of_nonneg (add_nonneg havailable hpending)] at hh
  have hgap : b.exact.gap = roundingError b.available b.pending - roundingError b.totalReceived b.totalPaidOut.neg := by
    simp only [ExactBalance.gap, exact]
    linarith
  have hkeep : |b.totalReceived.toRat - b.totalPaidOut.toRat| ≤
      b.available.toRat + b.pending.toRat + |b.exact.gap| := by
    have hsplit : b.totalReceived.toRat - b.totalPaidOut.toRat =
        b.available.toRat + b.pending.toRat + b.exact.gap := by
      simp only [ExactBalance.gap, exact]
      ring
    rw [hsplit]
    refine (abs_add_le _ _).trans_eq ?_
    rw [abs_of_nonneg (add_nonneg havailable hpending)]
  have htriangle := abs_sub (roundingError b.available b.pending) (roundingError b.totalReceived b.totalPaidOut.neg)
  rw [← hgap] at htriangle
  have hpos := abs_nonneg b.exact.gap
  linarith

theorem shown_nonneg (h : b.Checked) (places : Nat) : 0 ≤ (b.shown places).available ∧ 0 ≤ (b.shown places).pending :=
  ⟨round_nonneg _ h.nonneg.1 places, round_nonneg _ h.nonneg.2 places⟩

/-- What is printed of a row that passes its check adds up to within two units, but for what sums of this size are
rounded. -/
theorem abs_gap_shown_le (h : b.Checked) (places : Nat) : |(b.shown places).gap| ≤
    2 / 10 ^ places + ((b.shown places).available + (b.shown places).pending + 1) / 10 ^ 27 := by
  have hunit : (1 / 2 / 10 ^ places : ℚ) ≤ 1 / 2 := div_le_self (by norm_num) (one_le_pow₀ (by norm_num))
  have havailable := (abs_le.mp (b.available.abs_rounded_sub_le places)).1
  have hpending := (abs_le.mp (b.pending.abs_rounded_sub_le places)).1
  have hheld : b.available.toRat + b.pending.toRat ≤ (b.shown places).available + (b.shown places).pending + 1 := by
    simp only [shown]
    linarith
  have htriangle := abs_sub_abs_le_abs_sub (b.shown places).gap b.exact.gap
  have hgap := h.abs_gap_le
  have hsum : (b.available.toRat + b.pending.toRat) / 10 ^ 27 ≤
      ((b.shown places).available + (b.shown places).pending + 1) / 10 ^ 27 :=
    div_le_div_of_nonneg_right hheld (by positivity)
  linarith [b.abs_gap_shown_sub_le places]

end Checked
end Balance
end Settlement
