import Settlement.Proofs.Balance.Conservation
import Settlement.Proofs.Decimal.Monotone

/-! Which movements a balance accepts. A balance that is exact accepts every credit of a
positive amount whose sums decimals can hold; where rounding has slipped, it may refuse one. -/
namespace Settlement
namespace Balance

open Decimal

/-- The amount is positive, and the row that the movement leads to passes the check. -/
def Accepts (b : Balance) (op : LedgerOp) : Prop := op.amount.Positive ∧ ∃ m, b.Moves op m ∧ m.Checked

theorem accepts_iff {b : Balance} {op : LedgerOp} (now : Instant) :
    b.Accepts op ↔ ∃ next, b.apply op now = .ok next := by
  simp only [apply_eq_ok, Accepts]
  constructor
  · rintro ⟨hamount, m, hm, hc⟩
    exact ⟨_, hamount, m, hm, hc, rfl⟩
  · rintro ⟨-, hamount, m, hm, hc, -⟩
    exact ⟨hamount, m, hm, hc⟩

theorem exists_error_of_not_accepts {b : Balance} {op : LedgerOp} (now : Instant) (h : ¬ b.Accepts op) :
    ∃ fault, b.apply op now = .error fault := by
  cases ha : b.apply op now with
  | error fault => exact ⟨fault, rfl⟩
  | ok next => exact absurd ((accepts_iff now).mpr ⟨next, ha⟩) h

theorem apply_of_not_positive {b : Balance} {op : LedgerOp} (now : Instant) (h : ¬ op.amount.Positive) :
    b.apply op now = .error (.refused .invalidAmount) := by
  rw [apply, check_of_not h]
  rfl

theorem accepts_credit_of_conserving {b : Balance} {amount : Decimal} (hb : b.Conserving)
    (hpaid : 0 ≤ b.totalPaidOut.toRat) (hamount : amount.Positive)
    (havailable : Representable (b.available.toRat + amount.toRat))
    (hreceived : Representable (b.totalReceived.toRat + amount.toRat)) : b.Accepts (.credit amount) := by
  obtain ⟨available, ha, hav⟩ := add?_of_representable havailable
  obtain ⟨totalReceived, ht, htv⟩ := add?_of_representable hreceived
  have hpos : 0 < amount.toRat := positive_iff_toRat.mp hamount
  have hexact : totalReceived.toRat + b.totalPaidOut.neg.toRat = available.toRat + b.pending.toRat := by
    rw [toRat_neg, hav, htv]
    have := hb.conserved
    linarith
  have hrange : |totalReceived.toRat + b.totalPaidOut.neg.toRat| ≤ totalReceived.toRat := by
    have hkept : 0 ≤ totalReceived.toRat + b.totalPaidOut.neg.toRat := by
      rw [hexact, hav]
      have := hb.available_nonneg
      have := hb.pending_nonneg
      linarith
    rw [abs_of_nonneg hkept, toRat_neg]
    linarith
  obtain ⟨kept, hkept, -⟩ := add?_of_abs_le hrange
  obtain ⟨held, hheld, -⟩ := add?_of_abs_le (hexact ▸ hrange)
  refine ⟨hamount, { b with available, totalReceived }, ⟨available, totalReceived, ha, ht, rfl⟩, ?_, ?_, kept, held,
    hkept, hheld, sameValue_of_add? hexact hkept hheld⟩
  · rw [le_iff_toRat, toRat_zero, hav]
    exact add_nonneg hb.available_nonneg (le_of_lt hpos)
  · rw [le_iff_toRat, toRat_zero]
    exact hb.pending_nonneg

theorem totalPaidOut_nonneg_of_apply {b next : Balance} {op : LedgerOp} {now : Instant}
    (h : b.apply op now = .ok next) (hb : 0 ≤ b.totalPaidOut.toRat) : 0 ≤ next.totalPaidOut.toRat := by
  obtain ⟨hamount, m, hm, -, rfl⟩ := apply_eq_ok.mp h
  cases op with
  | credit amount =>
    obtain ⟨available, totalReceived, -, -, rfl⟩ := hm
    exact hb
  | reserve amount =>
    obtain ⟨-, available, pending, -, -, rfl⟩ := hm
    exact hb
  | release amount =>
    obtain ⟨pending, available, -, -, rfl⟩ := hm
    exact hb
  | settle amount =>
    obtain ⟨pending, totalPaidOut, -, ht, rfl⟩ := hm
    have hpos : 0 < amount.toRat := positive_iff_toRat.mp hamount
    exact le_of_lt (positive_iff_toRat.mp ((add?_positive_iff ht).mpr (by linarith)))

end Balance
end Settlement
