import Settlement.Proofs.Balance.Movement
import Settlement.Proofs.Decimal.Value

/-! Conservation of money in a balance. The check of a row compares rounded sums, so
it lets pass what rounding hides; the row is exact just as long as the rounding
errors of its movements cancel. -/
namespace Settlement
namespace Balance

open Decimal

/-- The row after a series of movements, in which those that fail have no effect. -/
def after (b : Balance) : List (LedgerOp × Instant) → Balance
  | [] => b
  | (op, now) :: rest =>
    match b.apply op now with
    | .ok next => next.after rest
    | .error _ => b.after rest

/-- The exact numbers of the row are not negative, and what came in and was not paid out is available
or pending. -/
structure Conserving (b : Balance) : Prop where
  available_nonneg : 0 ≤ b.available.toRat
  pending_nonneg : 0 ≤ b.pending.toRat
  conserved : b.totalReceived.toRat - b.totalPaidOut.toRat = b.available.toRat + b.pending.toRat

/-- The money that the row holds or has paid out without having received it. -/
def surplus (b : Balance) : ℚ :=
  b.available.toRat + b.pending.toRat - (b.totalReceived.toRat - b.totalPaidOut.toRat)

/-- The money that a movement creates by rounding the two sums that it stores. -/
def slip (b : Balance) : LedgerOp → ℚ
  | .credit amount => roundingError b.available amount - roundingError b.totalReceived amount
  | .reserve amount => roundingError b.available amount.neg + roundingError b.pending amount
  | .release amount => roundingError b.pending amount.neg + roundingError b.available amount
  | .settle amount => roundingError b.pending amount.neg + roundingError b.totalPaidOut amount

/-- The slips of a series of movements, those that fail left out. -/
def slips (b : Balance) : List (LedgerOp × Instant) → List ℚ
  | [] => []
  | (op, now) :: rest =>
    match b.apply op now with
    | .ok next => b.slip op :: next.slips rest
    | .error _ => b.slips rest

theorem surplus_of_moves {b next : Balance} {op : LedgerOp} (h : b.Moves op next) :
    next.surplus = b.surplus + b.slip op := by
  cases op with
  | credit amount =>
    obtain ⟨available, totalReceived, ha, ht, rfl⟩ := h
    simp only [surplus, slip, toRat_of_add? ha, toRat_of_add? ht]
    ring
  | reserve amount =>
    obtain ⟨-, available, pending, ha, hp, rfl⟩ := h
    simp only [surplus, slip, toRat_of_sub? ha, toRat_of_add? hp]
    ring
  | release amount =>
    obtain ⟨pending, available, hp, ha, rfl⟩ := h
    simp only [surplus, slip, toRat_of_sub? hp, toRat_of_add? ha]
    ring
  | settle amount =>
    obtain ⟨pending, totalPaidOut, hp, ht, rfl⟩ := h
    simp only [surplus, slip, toRat_of_sub? hp, toRat_of_add? ht]
    ring

theorem surplus_of_apply {b next : Balance} {op : LedgerOp} {now : Instant} (h : b.apply op now = .ok next) :
    0 ≤ next.available.toRat ∧ 0 ≤ next.pending.toRat ∧ next.surplus = b.surplus + b.slip op := by
  obtain ⟨-, m, hm, hc, rfl⟩ := apply_eq_ok.mp h
  refine ⟨?_, ?_, (rfl : _ = m.surplus).trans (surplus_of_moves hm)⟩
  · simpa [le_iff_toRat] using hc.available_nonneg
  · simpa [le_iff_toRat] using hc.pending_nonneg

/-- The two exact sums that a movement forms are numbers that decimals can hold. -/
def Fits (b : Balance) : LedgerOp → Prop
  | .credit amount => Representable (b.available.toRat + amount.toRat) ∧
      Representable (b.totalReceived.toRat + amount.toRat)
  | .reserve amount => Representable (b.available.toRat - amount.toRat) ∧
      Representable (b.pending.toRat + amount.toRat)
  | .release amount => Representable (b.pending.toRat - amount.toRat) ∧
      Representable (b.available.toRat + amount.toRat)
  | .settle amount => Representable (b.pending.toRat - amount.toRat) ∧
      Representable (b.totalPaidOut.toRat + amount.toRat)

theorem conserving_next_iff {b next : Balance} {op : LedgerOp} {now : Instant} (hb : b.Conserving)
    (h : b.apply op now = .ok next) : next.Conserving ↔ b.slip op = 0 := by
  obtain ⟨ha, hp, hs⟩ := surplus_of_apply h
  have hz : b.surplus = 0 := by rw [surplus, hb.conserved, sub_self]
  rw [hz, zero_add] at hs
  rw [← hs, surplus, sub_eq_zero]
  exact ⟨fun hc => hc.conserved.symm, fun he => ⟨ha, hp, he.symm⟩⟩

theorem nonneg_after {b : Balance} (ha : 0 ≤ b.available.toRat) (hp : 0 ≤ b.pending.toRat)
    (ops : List (LedgerOp × Instant)) :
    0 ≤ (b.after ops).available.toRat ∧ 0 ≤ (b.after ops).pending.toRat := by
  induction ops generalizing b with
  | nil => exact ⟨ha, hp⟩
  | cons step rest ih =>
    obtain ⟨op, now⟩ := step
    simp only [after]
    cases h : b.apply op now with
    | error fault => exact ih ha hp
    | ok next =>
      obtain ⟨ha', hp', -⟩ := surplus_of_apply h
      exact ih ha' hp'

/-- A row without surplus conserves money after every movement of a series just if none slips. -/
theorem conserving_after_iff {b : Balance} (hb : b.Conserving) (ops : List (LedgerOp × Instant)) :
    (∀ done, done <+: ops → (b.after done).Conserving) ↔ ∀ slip ∈ b.slips ops, slip = 0 := by
  induction ops generalizing b with
  | nil =>
    constructor
    · exact fun _ _ h => nomatch h
    · intro _ done hdone
      rw [List.prefix_nil.mp hdone]
      exact hb
  | cons step rest ih =>
    obtain ⟨op, now⟩ := step
    have hinitial : (∀ done, done <+: (op, now) :: rest → (b.after done).Conserving) ↔
        ∀ done, done <+: rest → (b.after ((op, now) :: done)).Conserving := by
      constructor
      · exact fun h done hdone => h _ (List.cons_prefix_cons.mpr ⟨rfl, hdone⟩)
      · intro h done hdone
        rcases List.prefix_cons_iff.mp hdone with rfl | ⟨t, rfl, ht⟩
        · exact hb
        · exact h t ht
    rw [hinitial]
    simp only [after, slips]
    cases h : b.apply op now with
    | error fault => exact ih hb
    | ok next =>
      have hnext := conserving_next_iff hb h
      rw [List.forall_mem_cons]
      constructor
      · intro hall
        have hc : next.Conserving := hall [] List.nil_prefix
        exact ⟨hnext.mp hc, (ih hc).mp hall⟩
      · rintro ⟨hslip, hrest⟩
        exact (ih (hnext.mpr hslip)).mpr hrest

theorem conserving_opened (merchant : MerchantId) (start : Instant) : (Balance.opened merchant start).Conserving := by
  constructor <;> simp [Balance.opened]

/-- After every movement of a fresh row available and pending funds are not negative. Money is exactly
conserved after every movement if and only if none slips. -/
theorem fresh_row_conserves_iff_no_slip (merchant : MerchantId) (start : Instant)
    (ops : List (LedgerOp × Instant)) :
    let b := Balance.opened merchant start
    (∀ done, done <+: ops → 0 ≤ (b.after done).available.toRat ∧ 0 ≤ (b.after done).pending.toRat) ∧
      ((∀ done, done <+: ops → (b.after done).Conserving) ↔ ∀ slip ∈ b.slips ops, slip = 0) := by
  intro b
  have hb : b.Conserving := conserving_opened merchant start
  exact ⟨fun done _ => nonneg_after hb.available_nonneg hb.pending_nonneg done, conserving_after_iff hb ops⟩

/-- A tenth that is reserved from the largest balance is pending, and still available. -/
theorem tenth_of_largest_not_conserved :
    ¬ ((Balance.opened ⟨0⟩ .epoch).after
      [(.credit (.ofParts (2 ^ 96 - 1) 0), .epoch), (.reserve (.ofParts 1 1), .epoch)]).Conserving := by
  have hrow : (Balance.opened ⟨0⟩ .epoch).after
      [(.credit (.ofParts (2 ^ 96 - 1) 0), .epoch), (.reserve (.ofParts 1 1), .epoch)] =
      ⟨⟨0⟩, .ofParts (2 ^ 96 - 1) 0, .ofParts 1 1, .ofParts (2 ^ 96 - 1) 0, .zero, .epoch⟩ := rfl
  intro h
  have hc := h.conserved
  rw [hrow] at hc
  norm_num [toRat, ofParts, zero, ofNat] at hc

end Balance
end Settlement
