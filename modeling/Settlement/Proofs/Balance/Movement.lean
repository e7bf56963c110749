import Settlement.Balance

/-! What a movement that succeeds has done to a balance. -/
namespace Settlement
namespace Balance

/-- The two fields that a movement changes, each by a sum of decimals. -/
def Moves (b : Balance) (op : LedgerOp) (next : Balance) : Prop :=
  match op with
  | .credit amount => ∃ available totalReceived,
      b.available.add? amount = some available ∧ b.totalReceived.add? amount = some totalReceived ∧
      { b with available, totalReceived } = next
  | .reserve amount => amount ≤ b.available ∧ ∃ available pending,
      b.available.sub? amount = some available ∧ b.pending.add? amount = some pending ∧
      { b with available, pending } = next
  | .release amount => ∃ pending available,
      b.pending.sub? amount = some pending ∧ b.available.add? amount = some available ∧
      { b with available, pending } = next
  | .settle amount => ∃ pending totalPaidOut,
      b.pending.sub? amount = some pending ∧ b.totalPaidOut.add? amount = some totalPaidOut ∧
      { b with pending, totalPaidOut } = next

theorem moved_eq_ok {b next : Balance} {op : LedgerOp} : b.moved op = .ok next ↔ b.Moves op next := by
  cases op <;>
    simp [moved, Moves, bind_eq_ok, unguarded_eq_ok, check_eq_ok, pure, Except.pure]

structure Checked (b : Balance) : Prop where
  available_nonneg : Decimal.zero ≤ b.available
  pending_nonneg : Decimal.zero ≤ b.pending
  kept_eq_held : ∃ kept held, b.totalReceived.sub? b.totalPaidOut = some kept ∧
    b.available.add? b.pending = some held ∧ kept.SameValue held

theorem checkSums_eq_ok {b : Balance} {u : Unit} : b.checkSums = .ok u ↔ b.Checked := by
  simp only [checkSums, bind_eq_ok, unguarded_eq_ok, check_eq_ok]
  constructor
  · rintro ⟨_, ha, _, hp, kept, hk, held, hh, he⟩
    exact ⟨ha, hp, kept, held, hk, hh, he⟩
  · rintro ⟨ha, hp, kept, held, hk, hh, he⟩
    exact ⟨(), ha, (), hp, kept, hk, held, hh, he⟩

theorem apply_eq_ok {b next : Balance} {op : LedgerOp} {now : Instant} :
    b.apply op now = .ok next ↔
      op.amount.Positive ∧ ∃ m, b.Moves op m ∧ m.Checked ∧ next = { m with updatedAt := now } := by
  simp only [apply, bind_eq_ok, check_eq_ok, moved_eq_ok, checkSums_eq_ok, pure, Except.pure, Except.ok.injEq]
  constructor
  · rintro ⟨_, ha, m, hm, _, hc, rfl⟩
    exact ⟨ha, m, hm, hc, rfl⟩
  · rintro ⟨ha, m, hm, hc, rfl⟩
    exact ⟨(), ha, m, hm, (), hc, rfl⟩

end Balance
end Settlement
