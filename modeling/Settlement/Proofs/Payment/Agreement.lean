import Settlement.Proofs.Decimal.Monotone
import Settlement.Proofs.Payment.Life

/-! Events that agree with a payment: the amount is right up to the tolerance, and sender and
hash are those of the transaction that is known. Such an event is never refused and never
fails the payment, it can only move it forward. -/
namespace Settlement
namespace Payment

variable {p q : Payment} {policy : ConfirmationPolicy} {event : ChainEvent} {now : Instant}

/-- The event is of the transaction that is known of the payment, as far as both say which one it is. -/
structure SameTransaction (p : Payment) (event : ChainEvent) : Prop where
  sender : ∀ sender, p.senderAddress = some sender → sender = event.senderAddress
  hash : ∀ known seen, p.txHash = some known → event.txHash = some seen → known = seen

/-- The event reports no error, and an amount that differs from the expected one by no more than the
tolerance. -/
structure Sound (p : Payment) (policy : ConfirmationPolicy) (event : ChainEvent) : Prop where
  error : event.error = none
  close : |event.observedAmount.toRat - p.tokenAmount.toRat| ≤ policy.amountTolerance.toRat

theorem sound_of_sameValue (error : event.error = none) (amount : event.observedAmount.SameValue p.tokenAmount)
    (tolerant : Decimal.zero ≤ policy.amountTolerance) : p.Sound policy event := by
  refine ⟨error, ?_⟩
  rw [Decimal.sameValue_iff_toRat.mp amount, sub_self, abs_zero, ← Decimal.toRat_zero]
  exact Decimal.le_iff_toRat.mp tolerant

theorem hashConflict?_eq_none_iff : conflict?.hashConflict? p event = none ↔
    ∀ known seen, p.txHash = some known → event.txHash = some seen → known = seen := by
  unfold conflict?.hashConflict?
  cases p.txHash with
  | none => simp
  | some known =>
    cases event.txHash with
    | none => simp
    | some seen => simp

theorem conflict?_eq_none_iff : p.conflict? event = none ↔ p.SameTransaction event := by
  unfold conflict?
  cases hs : p.senderAddress with
  | none =>
    rw [hashConflict?_eq_none_iff]
    exact ⟨fun h => ⟨by simp [hs], h⟩, fun h => h.hash⟩
  | some sender =>
    by_cases hsame : sender = event.senderAddress
    · simp only [if_pos hsame, hashConflict?_eq_none_iff]
      exact ⟨fun h => ⟨by simp [hs, hsame], h⟩, fun h => h.hash⟩
    · simp only [if_neg hsame, reduceCtorEq, false_iff]
      exact fun h => hsame (h.sender sender hs)

/-- The difference is measured after rounding, which does not carry it beyond the tolerance. -/
theorem Sound.measured (h : p.Sound policy event) : ∃ difference,
    event.observedAmount.sub? p.tokenAmount = some difference ∧ ¬ policy.amountTolerance < difference.abs := by
  obtain ⟨difference, hd, hle⟩ := Decimal.sub?_of_abs_le h.close
  refine ⟨difference, hd, ?_⟩
  rw [Decimal.not_lt, Decimal.le_iff_toRat, Decimal.toRat_abs]
  exact hle

/-- An event with an amount that is close enough moves a payment on, unless it is in conflict with what was observed
before. -/
theorem applyEvent_of_within {difference : Decimal} (alive : p.status.isTerminal = false)
    (due : p.isOverdue now = false) (sound : event.error = none)
    (measured : event.observedAmount.sub? p.tokenAmount = some difference)
    (close : ¬ policy.amountTolerance < difference.abs) :
    p.applyEvent policy event now = .ok (
      match if p.status = .created then none else p.conflict? event with
      | some reason => p.fail reason now
      | none => p.advance policy event now) := by
  unfold applyEvent
  rw [if_neg (by rw [alive]; decide), if_neg (by rw [due]; decide)]
  simp only [sound, measured, unguarded_some]
  show (if policy.amountTolerance < difference.abs then _ else _) = _
  rw [if_neg close]
  cases (if p.status = .created then none else p.conflict? event) <;> rfl

/-- An event with an amount that is close enough moves a payment of its transaction forward, or leaves it as it is. -/
theorem applyEvent_of_close {difference : Decimal} (alive : p.status.isTerminal = false) (due : p.isOverdue now = false)
    (sound : event.error = none) (measured : event.observedAmount.sub? p.tokenAmount = some difference)
    (close : ¬ policy.amountTolerance < difference.abs) (agrees : p.status = .created ∨ p.conflict? event = none) :
    p.applyEvent policy event now = .ok (p.advance policy event now) := by
  have hagrees : (if p.status = .created then none else p.conflict? event) = none := by
    split
    case isTrue => rfl
    case isFalse hc => exact agrees.resolve_left hc
  rw [applyEvent_of_within alive due sound measured close, hagrees]

/-- A sound event of the known transaction moves a payment forward, or leaves it as it is. -/
theorem applyEvent_of_sound (alive : p.status.isTerminal = false) (due : p.isOverdue now = false)
    (sound : p.Sound policy event) (same : p.status = .created ∨ p.SameTransaction event) :
    p.applyEvent policy event now = .ok (p.advance policy event now) := by
  obtain ⟨difference, hd, hclose⟩ := sound.measured
  exact applyEvent_of_close alive due sound.error hd hclose (same.imp_right conflict?_eq_none_iff.mpr)

theorem applyEvent_of_terminal (ended : p.status.isTerminal = true) :
    p.applyEvent policy event now = .ok (p, .unchanged p.status) := if_pos ended

theorem progress_lt_of_open (alive : p.status.isTerminal = false) :
    p.status.progress < PaymentStatus.completed.progress := by
  cases hs : p.status <;> rw [hs] at alive <;> first | decide | cases alive

theorem target_of_finalized (h : event.finalized = true) : target policy event = .completed := if_pos (.inl h)

end Payment
end Settlement
