import Settlement.Proofs.Balance.Conservation

/-! Balances without rounding. As long as all numbers are multiples of one power of ten
and stay within the range of decimals, a row moves like its exact numbers do. -/
namespace Settlement

open Decimal

/-- The numbers of a balance, as exact as money is. -/
structure ExactBalance where
  available : ℚ
  pending : ℚ
  totalReceived : ℚ
  totalPaidOut : ℚ

namespace ExactBalance

def zero : ExactBalance := ⟨0, 0, 0, 0⟩

def move (x : ExactBalance) : LedgerOp → ExactBalance
  | .credit amount =>
    { x with available := x.available + amount.toRat, totalReceived := x.totalReceived + amount.toRat }
  | .reserve amount => { x with available := x.available - amount.toRat, pending := x.pending + amount.toRat }
  | .release amount => { x with available := x.available + amount.toRat, pending := x.pending - amount.toRat }
  | .settle amount => { x with pending := x.pending - amount.toRat, totalPaidOut := x.totalPaidOut + amount.toRat }

/-- All numbers are multiples of `10 ^ -s`. -/
structure OnGrid (s : Nat) (x : ExactBalance) : Prop where
  available : MultipleOf s x.available
  pending : MultipleOf s x.pending
  totalReceived : MultipleOf s x.totalReceived
  totalPaidOut : MultipleOf s x.totalPaidOut

/-- Nothing is negative, what came in and was not paid out is available or pending, and less than the
bound came in. -/
structure Within (bound : ℚ) (x : ExactBalance) : Prop where
  available_nonneg : 0 ≤ x.available
  pending_nonneg : 0 ≤ x.pending
  totalPaidOut_nonneg : 0 ≤ x.totalPaidOut
  conserved : x.totalReceived - x.totalPaidOut = x.available + x.pending
  totalReceived_lt : x.totalReceived < bound

def Covers (bound : ℚ) (x : ExactBalance) : LedgerOp → Prop
  | .credit amount => x.totalReceived + amount.toRat < bound
  | .reserve amount => amount.toRat ≤ x.available
  | .release amount | .settle amount => amount.toRat ≤ x.pending

theorem OnGrid.move {s : Nat} {x : ExactBalance} (hx : x.OnGrid s) {op : LedgerOp}
    (hop : MultipleOf s op.amount.toRat) : (x.move op).OnGrid s := by
  cases op with
  | credit amount => exact ⟨hx.available.add hop, hx.pending, hx.totalReceived.add hop, hx.totalPaidOut⟩
  | reserve amount => exact ⟨hx.available.sub hop, hx.pending.add hop, hx.totalReceived, hx.totalPaidOut⟩
  | release amount => exact ⟨hx.available.add hop, hx.pending.sub hop, hx.totalReceived, hx.totalPaidOut⟩
  | settle amount => exact ⟨hx.available, hx.pending.sub hop, hx.totalReceived, hx.totalPaidOut.add hop⟩

namespace Within

variable {bound : ℚ} {x : ExactBalance}

theorem held_le (h : x.Within bound) : x.available + x.pending ≤ x.totalReceived := by
  have := h.conserved
  have := h.totalPaidOut_nonneg
  linarith

theorem available_le (h : x.Within bound) : x.available ≤ x.totalReceived :=
  le_trans (le_add_of_nonneg_right h.pending_nonneg) h.held_le

theorem pending_le (h : x.Within bound) : x.pending ≤ x.totalReceived :=
  le_trans (le_add_of_nonneg_left h.available_nonneg) h.held_le

theorem totalReceived_nonneg (h : x.Within bound) : 0 ≤ x.totalReceived :=
  le_trans h.available_nonneg h.available_le

theorem totalPaidOut_le (h : x.Within bound) : x.totalPaidOut ≤ x.totalReceived := by
  have := h.conserved
  have := h.available_nonneg
  have := h.pending_nonneg
  linarith

theorem move (h : x.Within bound) {op : LedgerOp} (hamount : 0 ≤ op.amount.toRat) (hcovers : x.Covers bound op) :
    (x.move op).Within bound := by
  obtain ⟨ha, hp, hpaid, hc, hr⟩ := h
  cases op with
  | credit amount =>
    refine ⟨add_nonneg ha hamount, hp, hpaid, ?_, hcovers⟩
    simp only [ExactBalance.move]
    linarith
  | reserve amount =>
    refine ⟨sub_nonneg.mpr hcovers, add_nonneg hp hamount, hpaid, ?_, hr⟩
    simp only [ExactBalance.move]
    linarith
  | release amount =>
    refine ⟨add_nonneg ha hamount, sub_nonneg.mpr hcovers, hpaid, ?_, hr⟩
    simp only [ExactBalance.move]
    linarith
  | settle amount =>
    refine ⟨ha, sub_nonneg.mpr hcovers, add_nonneg hpaid hamount, ?_, hr⟩
    simp only [ExactBalance.move]
    linarith

theorem representable {s : Nat} (hs : s ≤ 28) (hx : x.Within (2 ^ 96 / 10 ^ s)) {q : ℚ} (hq : MultipleOf s q)
    (hnonneg : 0 ≤ q) (hle : q ≤ x.totalReceived) : Representable q := by
  refine hq.representable hs ?_
  rw [abs_of_nonneg hnonneg]
  exact lt_of_le_of_lt hle hx.totalReceived_lt

end Within

end ExactBalance

namespace Balance

def exact (b : Balance) : ExactBalance :=
  ⟨b.available.toRat, b.pending.toRat, b.totalReceived.toRat, b.totalPaidOut.toRat⟩

theorem exact_of_moves {b next : Balance} {op : LedgerOp} (h : b.Moves op next) (hfits : b.Fits op) :
    next.exact = b.exact.move op := by
  have add {x y z : Decimal} (hz : x.add? y = some z) (hr : Representable (x.toRat + y.toRat)) :
      z.toRat = x.toRat + y.toRat := by
    rw [toRat_of_add? hz, roundingError_of_representable hr, add_zero]
  have sub {x y z : Decimal} (hz : x.sub? y = some z) (hr : Representable (x.toRat - y.toRat)) :
      z.toRat = x.toRat - y.toRat := by
    rw [sub_eq_add_neg, ← toRat_neg] at hr ⊢
    exact add hz hr
  cases op with
  | credit amount =>
    obtain ⟨available, totalReceived, ha, ht, rfl⟩ := h
    simp only [exact, ExactBalance.move, add ha hfits.1, add ht hfits.2]
  | reserve amount =>
    obtain ⟨-, available, pending, ha, hp, rfl⟩ := h
    simp only [exact, ExactBalance.move, sub ha hfits.1, add hp hfits.2]
  | release amount =>
    obtain ⟨pending, available, hp, ha, rfl⟩ := h
    simp only [exact, ExactBalance.move, sub hp hfits.1, add ha hfits.2]
  | settle amount =>
    obtain ⟨pending, totalPaidOut, hp, ht, rfl⟩ := h
    simp only [exact, ExactBalance.move, sub hp hfits.1, add ht hfits.2]

/-- A movement whose exact sums can be held takes place, unless it reserves more than is available. -/
theorem exists_moves {b : Balance} {op : LedgerOp} (hfits : b.Fits op)
    (hcovered : ∀ amount, op = .reserve amount → amount ≤ b.available) : ∃ next, b.Moves op next := by
  cases op with
  | credit amount =>
    obtain ⟨available, ha, -⟩ := add?_of_representable hfits.1
    obtain ⟨totalReceived, ht, -⟩ := add?_of_representable hfits.2
    exact ⟨_, available, totalReceived, ha, ht, rfl⟩
  | reserve amount =>
    obtain ⟨available, ha, -⟩ := sub?_of_representable hfits.1
    obtain ⟨pending, hp, -⟩ := add?_of_representable hfits.2
    exact ⟨_, hcovered amount rfl, available, pending, ha, hp, rfl⟩
  | release amount =>
    obtain ⟨pending, hp, -⟩ := sub?_of_representable hfits.1
    obtain ⟨available, ha, -⟩ := add?_of_representable hfits.2
    exact ⟨_, pending, available, hp, ha, rfl⟩
  | settle amount =>
    obtain ⟨pending, hp, -⟩ := sub?_of_representable hfits.1
    obtain ⟨totalPaidOut, ht, -⟩ := add?_of_representable hfits.2
    exact ⟨_, pending, totalPaidOut, hp, ht, rfl⟩

theorem checked_of_within {s : Nat} (hs : s ≤ 28) {b : Balance} (hgrid : b.exact.OnGrid s)
    (h : b.exact.Within (2 ^ 96 / 10 ^ s)) : b.Checked := by
  have hreceived : b.totalReceived.toRat - b.totalPaidOut.toRat = b.available.toRat + b.pending.toRat := h.conserved
  have ha : 0 ≤ b.available.toRat := h.available_nonneg
  have hp : 0 ≤ b.pending.toRat := h.pending_nonneg
  have hheld : Representable (b.available.toRat + b.pending.toRat) :=
    h.representable hs (hgrid.available.add hgrid.pending) (add_nonneg ha hp) h.held_le
  obtain ⟨held, hh, hhv⟩ := add?_of_representable hheld
  obtain ⟨kept, hk, hkv⟩ := sub?_of_representable (hreceived.symm ▸ hheld)
  refine ⟨?_, ?_, kept, held, hk, hh, ?_⟩
  · rw [le_iff_toRat, toRat_zero]
    exact ha
  · rw [le_iff_toRat, toRat_zero]
    exact hp
  · rw [sameValue_iff_toRat, hkv, hhv, hreceived]

theorem fits_of_within {s : Nat} (hs : s ≤ 28) {b : Balance} {op : LedgerOp}
    (hgrid : (b.exact.move op).OnGrid s) (h : (b.exact.move op).Within (2 ^ 96 / 10 ^ s)) : b.Fits op := by
  have available := h.representable hs hgrid.available h.available_nonneg h.available_le
  have pending := h.representable hs hgrid.pending h.pending_nonneg h.pending_le
  have totalReceived := h.representable hs hgrid.totalReceived h.totalReceived_nonneg (le_refl _)
  have totalPaidOut := h.representable hs hgrid.totalPaidOut h.totalPaidOut_nonneg h.totalPaidOut_le
  cases op with
  | credit amount => exact ⟨available, totalReceived⟩
  | reserve amount => exact ⟨available, pending⟩
  | release amount => exact ⟨pending, available⟩
  | settle amount => exact ⟨pending, totalPaidOut⟩

/-- A movement of a positive amount that leads to exact numbers within the range of decimals succeeds, and
it leads to just these numbers. -/
theorem apply_of_within {s : Nat} (hs : s ≤ 28) {b : Balance} {op : LedgerOp} (now : Instant)
    (hgrid : b.exact.OnGrid s) (hamount : MultipleOf s op.amount.toRat) (hpositive : op.amount.Positive)
    (h : (b.exact.move op).Within (2 ^ 96 / 10 ^ s)) :
    ∃ next, b.apply op now = .ok next ∧ next.exact = b.exact.move op := by
  have hgrid' : (b.exact.move op).OnGrid s := hgrid.move hamount
  have hfits : b.Fits op := fits_of_within hs hgrid' h
  obtain ⟨m, hm⟩ := exists_moves hfits (by
    rintro amount rfl
    rw [le_iff_toRat]
    exact sub_nonneg.mp h.available_nonneg)
  have hexact : m.exact = b.exact.move op := exact_of_moves hm hfits
  have hchecked : m.Checked := checked_of_within hs (hexact ▸ hgrid') (hexact ▸ h)
  exact ⟨{ m with updatedAt := now }, apply_eq_ok.mpr ⟨hpositive, m, hm, hchecked, rfl⟩, hexact⟩

end Balance
end Settlement
