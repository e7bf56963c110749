import Settlement.Payment.Basic

/-! What an event and the clock can do to a payment. The invoice stays as it was
written, and a terminal payment stays altogether as it is. -/
namespace Settlement

def PaymentStatus.successors : PaymentStatus → List PaymentStatus
  | created => [pending, confirming, completed, expired]
  | pending => [confirming, completed, expired, failed]
  | confirming => [completed, failed]
  | completed | expired | failed => []

theorem PaymentStatus.mem_successors_of_lt {s t : PaymentStatus} (alive : s.isTerminal = false)
    (further : s.progress < t.progress) : t ∈ s.successors := by
  revert alive further
  cases s <;> cases t <;> decide

namespace Payment

def draft (p : Payment) : Payment :=
  { p with
    status := .created
    updatedAt := p.createdAt
    paidAt := none
    confirmedAt := none
    txHash := none
    senderAddress := none
    confirmationDepth := 0
    failureReason := none }

/-- What an event that is not refused makes of a payment, and under which conditions. -/
inductive Reacts (p : Payment) (policy : ConfirmationPolicy) (event : ChainEvent) (now : Instant) :
    Payment × PaymentTransition → Prop
  | ended (terminal : p.status.isTerminal = true) : Reacts p policy event now (p, .unchanged p.status)
  | expired (alive : p.status.isTerminal = false) (overdue : p.isOverdue now = true) :
    Reacts p policy event now (p.move .expired now)
  /-- An error of the chain before anything was observed. -/
  | ignored (early : p.status = .created) (due : p.isOverdue now = false) (error : event.error.isSome) :
    Reacts p policy event now (p, .unchanged p.status)
  | failed (reason : String) (alive : p.status.isTerminal = false) (due : p.isOverdue now = false)
    (late : p.status ≠ .created) : Reacts p policy event now (p.fail reason now)
  | advanced {difference : Decimal} (alive : p.status.isTerminal = false) (due : p.isOverdue now = false)
    (sound : event.error = none) (measured : event.observedAmount.sub? p.tokenAmount = some difference)
    (close : ¬ policy.amountTolerance < difference.abs)
    (agrees : p.status = .created ∨ p.conflict? event = none) :
    Reacts p policy event now (p.advance policy event now)

theorem reacts_of_applyEvent {p : Payment} {policy : ConfirmationPolicy} {event : ChainEvent} {now : Instant}
    {moved : Payment × PaymentTransition} (h : p.applyEvent policy event now = .ok moved) :
    p.Reacts policy event now moved := by
  unfold applyEvent at h
  by_cases ht : p.status.isTerminal = true
  · rw [if_pos ht] at h
    cases h
    exact .ended ht
  rw [if_neg ht] at h
  rw [Bool.not_eq_true] at ht
  by_cases ho : p.isOverdue now = true
  · rw [if_pos ho, expire, if_pos ho] at h
    cases h
    exact .expired ht ho
  rw [if_neg ho] at h
  rw [Bool.not_eq_true] at ho
  cases he : event.error with
  | some error =>
    rw [he] at h
    by_cases hc : p.status = .created
    · simp only [if_pos hc] at h
      cases h
      exact .ignored hc ho (by simp [he])
    · simp only [if_neg hc] at h
      cases h
      exact .failed _ ht ho hc
  | none =>
    simp only [he] at h
    obtain ⟨difference, hd, h⟩ := bind_eq_ok.mp h
    by_cases ha : policy.amountTolerance < difference.abs
    · rw [if_pos ha] at h
      by_cases hc : p.status = .created
      · rw [if_pos hc] at h
        cases h
      · rw [if_neg hc] at h
        cases h
        exact .failed _ ht ho hc
    · rw [if_neg ha] at h
      by_cases hc : p.status = .created
      · simp only [if_pos hc] at h
        cases h
        exact .advanced ht ho he (unguarded_eq_ok.mp hd) ha (.inl hc)
      · simp only [if_neg hc] at h
        cases hk : p.conflict? event with
        | some reason =>
          rw [hk] at h
          cases h
          exact .failed _ ht ho hc
        | none =>
          rw [hk] at h
          cases h
          exact .advanced ht ho he (unguarded_eq_ok.mp hd) ha (.inr hk)

theorem applyEvent_eq_overflow_iff (p : Payment) (policy : ConfirmationPolicy) (event : ChainEvent) (now : Instant) :
    p.applyEvent policy event now = .error .overflow ↔
      p.status.isTerminal = false ∧ p.isOverdue now = false ∧ event.error = none ∧
        event.observedAmount.sub? p.tokenAmount = none := by
  unfold applyEvent
  by_cases ht : p.status.isTerminal = true
  · simp [ht]
  by_cases ho : p.isOverdue now = true
  · simp [ht, ho]
  cases he : event.error with
  | some error => by_cases hc : p.status = .created <;> simp [ht, ho, hc]
  | none =>
    cases hd : event.observedAmount.sub? p.tokenAmount with
    | none => simp [ht, ho, bind, Except.bind]
    | some difference =>
      simp only [ht, ho, unguarded_some, bind, Except.bind, Bool.false_eq_true, if_false]
      by_cases ha : policy.amountTolerance < difference.abs
      · by_cases hc : p.status = .created <;> simp [ha, hc]
      · simp only [ha, if_false]
        cases (if p.status = .created then none else p.conflict? event) <;> simp

theorem merchantId_eq_of_draft {p q : Payment} (h : q.draft = p.draft) : q.merchantId = p.merchantId := by
  have hdraft := congrArg merchantId h
  exact hdraft

theorem netAmount_eq_of_draft {p q : Payment} (h : q.draft = p.draft) : q.netAmount = p.netAmount := by
  have hdraft := congrArg netAmount h
  exact hdraft

@[simp] theorem draft_move (p : Payment) (status : PaymentStatus) (now : Instant) :
    (p.move status now).1.draft = p.draft := rfl

@[simp] theorem draft_fail (p : Payment) (reason : String) (now : Instant) :
    (p.fail reason now).1.draft = p.draft := rfl

@[simp] theorem draft_observed (p : Payment) (event : ChainEvent) (now : Instant) :
    (p.observed event now).draft = p.draft := by
  unfold observed
  split <;> rfl

@[simp] theorem status_observed (p : Payment) (event : ChainEvent) (now : Instant) :
    (p.observed event now).status = p.status := by
  unfold observed
  split <;> rfl

@[simp] theorem draft_expire (p : Payment) (now : Instant) : (p.expire now).1.draft = p.draft := by
  unfold expire
  split <;> rfl

/-- The record of an observation that moves the payment on to a status. -/
def noted (p : Payment) (event : ChainEvent) (status : PaymentStatus) (now : Instant) : Payment :=
  if status = .completed then { p.observed event now with confirmedAt := some now } else p.observed event now

@[simp] theorem draft_noted (p : Payment) (event : ChainEvent) (status : PaymentStatus) (now : Instant) :
    (p.noted event status now).draft = p.draft := by
  unfold noted
  split
  · exact p.draft_observed event now
  · exact p.draft_observed event now

@[simp] theorem status_noted (p : Payment) (event : ChainEvent) (status : PaymentStatus) (now : Instant) :
    (p.noted event status now).status = p.status := by
  unfold noted
  split
  · exact p.status_observed event now
  · exact p.status_observed event now

theorem advance_of_le {p : Payment} {policy : ConfirmationPolicy} {event : ChainEvent} (now : Instant)
    (h : (target policy event).progress ≤ p.status.progress) :
    p.advance policy event now = (p, .unchanged p.status) := if_pos h

theorem advance_of_lt {p : Payment} {policy : ConfirmationPolicy} {event : ChainEvent} (now : Instant)
    (h : p.status.progress < (target policy event).progress) :
    p.advance policy event now = (p.noted event (target policy event) now).move (target policy event) now :=
  if_neg (Nat.not_le.mpr h)

/-- An event keeps the invoice, and a payment that it moves was not terminal before and has the status
that the answer names. -/
theorem Reacts.applied {p next : Payment} {policy : ConfirmationPolicy} {event : ChainEvent} {now : Instant}
    {source target : PaymentStatus} (h : p.Reacts policy event now (next, .applied source target)) :
    p.status.isTerminal = false ∧ next.draft = p.draft ∧ next.status = target := by
  generalize hm : (next, PaymentTransition.applied source target) = moved at h
  cases h with
  | ended => cases hm
  | expired alive =>
    cases hm
    exact ⟨alive, rfl, rfl⟩
  | ignored => cases hm
  | failed reason alive =>
    cases hm
    exact ⟨alive, rfl, rfl⟩
  | advanced alive =>
    rcases Nat.lt_or_ge p.status.progress (Payment.target policy event).progress with hlt | hle
    · rw [advance_of_lt now hlt] at hm
      cases hm
      exact ⟨alive, p.draft_noted event _ now, rfl⟩
    · rw [advance_of_le now hle] at hm
      cases hm

theorem applyEvent_applied {p next : Payment} {policy : ConfirmationPolicy} {event : ChainEvent} {now : Instant}
    {source target : PaymentStatus} (h : p.applyEvent policy event now = .ok (next, .applied source target)) :
    p.status.isTerminal = false ∧ next.draft = p.draft ∧ next.status = target :=
  (reacts_of_applyEvent h).applied

/-- An event that changes nothing leaves the record as it is, and names its status. -/
theorem applyEvent_unchanged {p next : Payment} {policy : ConfirmationPolicy} {event : ChainEvent} {now : Instant}
    {status : PaymentStatus} (h : p.applyEvent policy event now = .ok (next, .unchanged status)) :
    next = p ∧ status = p.status := by
  have hreacts := reacts_of_applyEvent h
  generalize hm : (next, PaymentTransition.unchanged status) = moved at hreacts
  cases hreacts with
  | ended | ignored =>
    cases hm
    exact ⟨rfl, rfl⟩
  | expired | failed => cases hm
  | advanced =>
    rcases Nat.lt_or_ge p.status.progress (target policy event).progress with hlt | hle
    · rw [advance_of_lt now hlt] at hm
      cases hm
    · rw [advance_of_le now hle] at hm
      cases hm
      exact ⟨rfl, rfl⟩

theorem confirmedAt_of_applyEvent {p next : Payment} {policy : ConfirmationPolicy} {event : ChainEvent}
    {now : Instant} {source : PaymentStatus}
    (h : p.applyEvent policy event now = .ok (next, .applied source .completed)) : next.confirmedAt = some now := by
  have hreacts := reacts_of_applyEvent h
  generalize hm : (next, PaymentTransition.applied source .completed) = moved at hreacts
  cases hreacts with
  | ended | expired | ignored | failed => cases hm
  | advanced =>
    rcases Nat.lt_or_ge p.status.progress (target policy event).progress with hlt | hle
    · rw [advance_of_lt now hlt] at hm
      obtain ⟨hnext, htransition⟩ := Prod.mk.inj hm
      have htarget : target policy event = .completed := (PaymentTransition.applied.inj htransition).2.symm
      rw [hnext, htarget, noted, if_pos rfl]
    · rw [advance_of_le now hle] at hm
      cases hm

theorem not_completed_of_open {p : Payment} (h : p.status.isTerminal = false) : p.status ≠ .completed := by
  intro hs
  rw [hs] at h
  cases h

theorem isOverdue_of_completed {p : Payment} (now : Instant) (h : p.status = .completed) :
    p.isOverdue now = false := by
  simp [isOverdue, h, PaymentStatus.canExpire]

theorem not_completed_of_overdue {p : Payment} {now : Instant} (h : p.isOverdue now = true) :
    p.status ≠ .completed := by
  intro hs
  rw [isOverdue_of_completed now hs] at h
  cases h

theorem expire_completed {p : Payment} (now : Instant) :
    (p.expire now).1.status = .completed ↔ p.status = .completed := by
  by_cases h : p.isOverdue now = true
  · simp [expire, h, move, not_completed_of_overdue h]
  · simp [expire, h]

/-! ## The course of a payment -/

/-- What a step can make of a payment: the invoice stays, the status stays or moves on to a next one, and a terminal
payment stays altogether as it is. -/
structure Continues (p q : Payment) : Prop where
  draft : q.draft = p.draft
  status : q.status = p.status ∨ q.status ∈ p.status.successors
  ended : p.status.isTerminal = true → q = p

theorem Continues.refl (p : Payment) : p.Continues p := ⟨rfl, .inl rfl, fun _ => rfl⟩

theorem continues_of_open {p q : Payment} (alive : p.status.isTerminal = false) (draft : q.draft = p.draft)
    (next : q.status ∈ p.status.successors) : p.Continues q := by
  refine ⟨draft, .inr next, fun hended => ?_⟩
  rw [alive] at hended
  cases hended

theorem continues_expire (p : Payment) (now : Instant) : p.Continues (p.expire now).1 := by
  by_cases ho : p.isOverdue now = true
  · have hexpires : p.status.canExpire = true := (Bool.and_eq_true_iff.mp ho).1
    have hnext : p.status.isTerminal = false ∧ .expired ∈ p.status.successors := by
      revert hexpires
      cases p.status <;> decide
    rw [expire, if_pos ho]
    exact continues_of_open hnext.1 (p.draft_move .expired now) hnext.2
  · rw [expire, if_neg ho]
    exact .refl p

theorem Reacts.continues {p : Payment} {policy : ConfirmationPolicy} {event : ChainEvent} {now : Instant}
    {moved : Payment × PaymentTransition} (h : p.Reacts policy event now moved) : p.Continues moved.1 := by
  cases h with
  | ended | ignored => exact .refl p
  | expired alive overdue =>
    have hexpire := p.continues_expire now
    rwa [expire, if_pos overdue] at hexpire
  | failed reason alive due late =>
    refine continues_of_open alive (p.draft_fail reason now) ?_
    show PaymentStatus.failed ∈ p.status.successors
    revert alive late
    cases p.status <;> decide
  | advanced alive =>
    rcases Nat.lt_or_ge p.status.progress (target policy event).progress with hlt | hle
    · rw [advance_of_lt now hlt]
      exact continues_of_open alive (p.draft_noted event _ now) (PaymentStatus.mem_successors_of_lt alive hlt)
    · rw [advance_of_le now hle]
      exact .refl p

theorem continues_applyEvent {p next : Payment} {policy : ConfirmationPolicy} {event : ChainEvent} {now : Instant}
    {transition : PaymentTransition} (h : p.applyEvent policy event now = .ok (next, transition)) :
    p.Continues next := (reacts_of_applyEvent h).continues

end Payment
end Settlement
