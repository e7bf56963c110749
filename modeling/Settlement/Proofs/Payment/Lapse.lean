import Settlement.Proofs.Payment.Life
import Settlement.Proofs.Time.Order

/-! Payments that have not been told yet that they are overdue. Such a payment trails one that
has: the two differ in the status, and in the time of the last change, until either is
looked at. -/
namespace Settlement
namespace Payment

variable {p q : Payment} {policy : ConfirmationPolicy} {event : ChainEvent} {now later : Instant}

def undated (p : Payment) : Payment := { p with updatedAt := p.createdAt }

/-- The payment is as the other one is, but for the time of its last change, or it is overdue and the other one
has expired. -/
def Trails (p q : Payment) (now : Instant) : Prop :=
  q.undated = p.undated ∨ p.isOverdue now = true ∧ q.undated = (p.move .expired now).1.undated

theorem eq_of_undated (h : q.undated = p.undated) : q = { p with updatedAt := q.updatedAt } := by
  cases p
  cases q
  simp only [undated, mk.injEq] at h ⊢
  simp [h]

theorem status_of_undated (h : q.undated = p.undated) : q.status = p.status := by rw [eq_of_undated h]

theorem isOverdue_of_undated (h : q.undated = p.undated) : q.isOverdue now = p.isOverdue now := by
  rw [eq_of_undated h]
  rfl

theorem isOverdue_mono (h : p.isOverdue now = true) (hle : now ≤ later) : p.isOverdue later = true := by
  rw [isOverdue, Bool.and_eq_true, decide_eq_true_iff] at *
  exact ⟨h.1, Instant.lt_of_lt_of_le h.2 hle⟩

theorem isOverdue_of_expired (h : p.status = .expired) : p.isOverdue now = false := by
  rw [isOverdue, h]
  rfl

theorem isTerminal_of_overdue (h : p.isOverdue now = true) : p.status.isTerminal = false := by
  rw [isOverdue, Bool.and_eq_true] at h
  cases hs : p.status <;> rw [hs] at h <;> first | rfl | cases h.1

theorem Trails.refl (p : Payment) (now : Instant) : p.Trails p now := .inl rfl

theorem Trails.mono (h : p.Trails q now) (hle : now ≤ later) : p.Trails q later :=
  h.imp_right fun ⟨hoverdue, hexpired⟩ => ⟨isOverdue_mono hoverdue hle, hexpired⟩

theorem Trails.isOverdue (h : p.Trails q now) (hq : q.isOverdue now = true) : p.isOverdue now = true := by
  obtain hsame | ⟨hoverdue, -⟩ := h
  · rw [← isOverdue_of_undated hsame, hq]
  · exact hoverdue

theorem status_of_expired (h : q.undated = (p.move .expired now).1.undated) : q.status = .expired :=
  status_of_undated h

theorem expire_of_not_overdue (h : p.isOverdue now = false) : p.expire now = (p, .unchanged p.status) := by
  rw [Payment.expire, h]
  rfl

theorem expire_of_overdue (h : p.isOverdue now = true) : p.expire now = p.move .expired now := if_pos h

/-- What becomes of a payment, without the time of the last change. -/
def effect (moved : Payment × PaymentTransition) : Payment × PaymentTransition := (moved.1.undated, moved.2)

theorem effect_expire_of_undated (h : q.undated = p.undated) : effect (q.expire now) = effect (p.expire now) := by
  have hoverdue : q.isOverdue now = p.isOverdue now := isOverdue_of_undated h
  cases ho : p.isOverdue now with
  | true =>
    rw [expire_of_overdue ho, expire_of_overdue (hoverdue.trans ho), eq_of_undated h]
    rfl
  | false =>
    rw [expire_of_not_overdue ho, expire_of_not_overdue (hoverdue.trans ho), effect, effect, h, status_of_undated h]

theorem Trails.expire (h : p.Trails q now) : (q.expire now).1.undated = (p.expire now).1.undated := by
  obtain hsame | ⟨hoverdue, hexpired⟩ := h
  · exact congrArg Prod.fst (effect_expire_of_undated hsame)
  · have hq : q.isOverdue now = false := isOverdue_of_expired (status_of_expired hexpired)
    rw [expire_of_overdue hoverdue, expire_of_not_overdue hq, hexpired]

theorem trails_expire (p : Payment) (now : Instant) : p.Trails (p.expire now).1 now := by
  cases ho : p.isOverdue now with
  | true =>
    rw [expire_of_overdue ho]
    exact .inr ⟨ho, rfl⟩
  | false =>
    rw [expire_of_not_overdue ho]
    exact .refl p now

theorem Trails.expire_right (h : p.Trails q now) : p.Trails (q.expire now).1 now := by
  have hsame : (q.expire now).1.undated = (p.expire now).1.undated := h.expire
  rw [Trails, hsame]
  exact p.trails_expire now

theorem effect_advance_of_undated (h : q.undated = p.undated) :
    effect (q.advance policy event now) = effect (p.advance policy event now) := by
  have hstatus : q.status = p.status := status_of_undated h
  rcases Nat.lt_or_ge p.status.progress (target policy event).progress with hlt | hle
  · rw [advance_of_lt now hlt, advance_of_lt now (hstatus ▸ hlt)]
    simp only [effect, move, status_noted, hstatus, Prod.mk.injEq, and_true]
    rw [eq_of_undated h]
    unfold noted observed
    split <;> split <;> rfl
  · rw [advance_of_le now hle, advance_of_le now (hstatus ▸ hle), effect, effect, h, hstatus]

theorem effect_applyEvent_of_undated (h : q.undated = p.undated) :
    (q.applyEvent policy event now).map effect = (p.applyEvent policy event now).map effect := by
  have hstatus : q.status = p.status := status_of_undated h
  have htoken : q.tokenAmount = p.tokenAmount := by rw [eq_of_undated h]
  have hconflict : q.conflict? event = p.conflict? event := by rw [eq_of_undated h]; rfl
  have hfail (reason : String) : effect (q.fail reason now) = effect (p.fail reason now) := by
    rw [eq_of_undated h]
    rfl
  have hsame : effect (q, .unchanged p.status) = effect (p, .unchanged p.status) := congrArg (·, _) h
  unfold applyEvent
  rw [hstatus, isOverdue_of_undated h, htoken, hconflict]
  by_cases ht : p.status.isTerminal = true
  · rw [if_pos ht, if_pos ht]
    exact congrArg Except.ok hsame
  rw [if_neg ht, if_neg ht]
  by_cases ho : p.isOverdue now = true
  · rw [if_pos ho, if_pos ho]
    exact congrArg Except.ok (effect_expire_of_undated h)
  rw [if_neg ho, if_neg ho]
  cases event.error with
  | some error =>
    by_cases hc : p.status = .created
    · simp only [if_pos hc]
      exact congrArg Except.ok hsame
    · simp only [if_neg hc]
      exact congrArg Except.ok (hfail _)
  | none =>
    cases event.observedAmount.sub? p.tokenAmount with
    | none => rfl
    | some difference =>
      show Except.map effect (if policy.amountTolerance < difference.abs then _ else _) =
        Except.map effect (if policy.amountTolerance < difference.abs then _ else _)
      by_cases ha : policy.amountTolerance < difference.abs
      · rw [if_pos ha, if_pos ha]
        by_cases hc : p.status = .created
        · rw [if_pos hc, if_pos hc]
        · rw [if_neg hc, if_neg hc]
          exact congrArg Except.ok (hfail _)
      · rw [if_neg ha, if_neg ha]
        cases (if p.status = .created then none else p.conflict? event) with
        | some reason => exact congrArg Except.ok (hfail reason)
        | none => exact congrArg Except.ok (effect_advance_of_undated h)

/-- An event has the same effect on both, or it expires the one behind and finds that the other one has. -/
theorem Trails.applyEvent (h : p.Trails q now) (policy : ConfirmationPolicy) (event : ChainEvent) :
    (q.applyEvent policy event now).map effect = (p.applyEvent policy event now).map effect ∨
    p.applyEvent policy event now = .ok (p.move .expired now) ∧
      q.applyEvent policy event now = .ok (q, .unchanged .expired) ∧
      q.undated = (p.move .expired now).1.undated := by
  obtain hsame | ⟨hoverdue, hexpired⟩ := h
  · exact .inl (effect_applyEvent_of_undated hsame)
  · have hq : q.status = .expired := status_of_expired hexpired
    refine .inr ⟨?_, ?_, hexpired⟩
    · rw [Payment.applyEvent, if_neg (by rw [isTerminal_of_overdue hoverdue]; decide), if_pos hoverdue,
        expire_of_overdue hoverdue]
    · rw [Payment.applyEvent, hq]
      rfl

end Payment
end Settlement
