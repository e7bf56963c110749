import Settlement.Proofs.Payment.Life
import Settlement.Proofs.Time.Order

/-! Which fields of a payment are set in which status, and in which order its times are. Every
event and every look at the clock keeps both. -/
namespace Settlement
namespace Payment

variable {p q : Payment} {required : UInt32} {policy : ConfirmationPolicy} {event : ChainEvent} {now : Instant}

/-- The fields agree with the status, when completion takes so many confirmations. -/
structure Coherent (required : UInt32) (p : Payment) : Prop where
  paid_iff : p.paidAt.isSome ↔ p.senderAddress.isSome
  unpaid : p.status = .created → p.paidAt = none
  paid : p.status ∈ [.pending, .confirming, .completed, .failed] → p.paidAt.isSome
  hash : p.txHash.isSome → p.paidAt.isSome
  confirmed_iff : p.confirmedAt.isSome ↔ p.status = .completed
  reason_iff : p.failureReason.isSome ↔ p.status = .failed
  unconfirmed : p.status ∈ [.created, .pending, .expired] → p.confirmationDepth = 0
  confirming : p.status = .confirming → 0 < p.confirmationDepth
  short : p.status ∈ [.pending, .confirming, .failed] → p.confirmationDepth < required
  timely : ∀ t ∈ p.paidAt, t ≤ p.expiresAt
  overdue : p.status = .expired → p.expiresAt < p.updatedAt

theorem coherent_draft (p : Payment) (required : UInt32) : p.draft.Coherent required := by
  constructor <;> simp [draft]

theorem Coherent.unconfirmed_of_open (h : p.Coherent required) (alive : p.status.isTerminal = false) :
    p.confirmedAt = none := by
  rw [← Option.not_isSome_iff_eq_none, h.confirmed_iff]
  exact not_completed_of_open alive

theorem Coherent.no_reason_of_open (h : p.Coherent required) (alive : p.status.isTerminal = false) :
    p.failureReason = none := by
  rw [← Option.not_isSome_iff_eq_none, h.reason_iff]
  intro hs
  rw [hs] at alive
  cases alive

theorem pending_or_confirming (alive : p.status.isTerminal = false) (late : p.status ≠ .created) :
    p.status = .pending ∨ p.status = .confirming := by
  revert alive late
  cases p.status <;> decide

/-! ## Observations -/

theorem target_cases (policy : ConfirmationPolicy) (event : ChainEvent) :
    target policy event = .completed ∨
      event.confirmationDepth < policy.requiredConfirmations ∧
        (target policy event = .confirming ∧ 0 < event.confirmationDepth ∨
          target policy event = .pending ∧ event.confirmationDepth = 0) := by
  unfold target
  split
  case isTrue => exact .inl rfl
  case isFalse hshort =>
    have hlt : event.confirmationDepth < policy.requiredConfirmations := UInt32.not_le.mp (not_or.mp hshort).2
    right
    split
    case isTrue hpos => exact ⟨hlt, .inl ⟨rfl, hpos⟩⟩
    case isFalse hzero => exact ⟨hlt, .inr ⟨rfl, UInt32.le_zero_iff.mp (UInt32.not_lt.mp hzero)⟩⟩

theorem noted_of_created {status : PaymentStatus} (created : p.status = .created) :
    p.noted event status now =
      { p with
        senderAddress := some event.senderAddress
        txHash := event.txHash
        paidAt := some now
        confirmationDepth := event.confirmationDepth
        confirmedAt := if status = .completed then some now else p.confirmedAt } := by
  unfold noted observed
  rw [if_pos created]
  split <;> rfl

theorem noted_of_late {status : PaymentStatus} (late : p.status ≠ .created) :
    p.noted event status now =
      { p with
        txHash := p.txHash.or event.txHash
        confirmationDepth := event.confirmationDepth
        confirmedAt := if status = .completed then some now else p.confirmedAt } := by
  unfold noted observed
  rw [if_neg late]
  split <;> rfl

/-- What the record of an observation says, whether it is the first one or not. -/
structure Recorded (event : ChainEvent) (status : PaymentStatus) (now : Instant) (q : Payment) : Prop where
  paid : q.paidAt.isSome
  sender : q.senderAddress.isSome
  timely : ∀ t ∈ q.paidAt, t ≤ q.expiresAt
  depth : q.confirmationDepth = event.confirmationDepth
  confirmed : q.confirmedAt = if status = .completed then some now else none
  reason : q.failureReason = none

theorem Coherent.recorded (h : p.Coherent required) (alive : p.status.isTerminal = false)
    (due : p.isOverdue now = false) (event : ChainEvent) (status : PaymentStatus) :
    Recorded event status now (p.noted event status now) := by
  by_cases created : p.status = .created
  · have hnow : now ≤ p.expiresAt := by
      rw [isOverdue, created] at due
      exact Instant.not_lt.mp (of_decide_eq_false due)
    rw [noted_of_created created]
    refine ⟨rfl, rfl, ?_, rfl, by rw [h.unconfirmed_of_open alive], h.no_reason_of_open alive⟩
    rintro t ⟨⟩
    exact hnow
  · have hpaid : p.paidAt.isSome := by
      refine h.paid ?_
      obtain hs | hs := pending_or_confirming alive created <;> rw [hs] <;> decide
    rw [noted_of_late created]
    exact ⟨hpaid, h.paid_iff.mp hpaid, h.timely, rfl, by rw [h.unconfirmed_of_open alive], h.no_reason_of_open alive⟩

theorem Coherent.noted (h : p.Coherent policy.requiredConfirmations) (alive : p.status.isTerminal = false)
    (due : p.isOverdue now = false) :
    ((p.noted event (target policy event) now).move (target policy event) now).1.Coherent
      policy.requiredConfirmations := by
  obtain ⟨paid, sender, timely, depth, confirmed, reason⟩ := h.recorded alive due event (target policy event)
  have htarget := target_cases policy event
  generalize target policy event = status at *
  exact
    { paid_iff := iff_of_true paid sender
      unpaid := by
        rintro rfl
        simp at htarget
      paid := fun _ => paid
      hash := fun _ => paid
      confirmed_iff := by
        show (p.noted event status now).confirmedAt.isSome ↔ status = .completed
        rw [confirmed]
        split <;> simp [*]
      reason_iff := by
        refine iff_of_false (by simp [move, reason]) ?_
        rintro rfl
        simp at htarget
      unconfirmed := by
        show status ∈ _ → (p.noted event status now).confirmationDepth = 0
        rw [depth]
        obtain rfl | ⟨-, ⟨rfl, -⟩ | ⟨rfl, hzero⟩⟩ := htarget
        · exact fun hmem => absurd hmem (by decide)
        · exact fun hmem => absurd hmem (by decide)
        · exact fun _ => hzero
      confirming := by
        show status = .confirming → 0 < (p.noted event status now).confirmationDepth
        rw [depth]
        rintro rfl
        obtain hcompleted | ⟨-, ⟨-, hpos⟩ | ⟨hpending, -⟩⟩ := htarget
        · cases hcompleted
        · exact hpos
        · cases hpending
      short := by
        show status ∈ _ → (p.noted event status now).confirmationDepth < policy.requiredConfirmations
        rw [depth]
        obtain rfl | ⟨hshort, -⟩ := htarget
        · exact fun hmem => absurd hmem (by decide)
        · exact fun _ => hshort
      timely := timely
      overdue := by
        rintro rfl
        simp at htarget }

/-! ## Reactions -/

theorem Coherent.expired (h : p.Coherent required) (overdue : p.isOverdue now = true) :
    (p.move .expired now).1.Coherent required := by
  have hexpires : p.status.canExpire = true := (Bool.and_eq_true_iff.mp overdue).1
  have hlate : p.expiresAt < now := of_decide_eq_true (Bool.and_eq_true_iff.mp overdue).2
  have hstatus : p.status = .created ∨ p.status = .pending := by
    revert hexpires
    cases p.status <;> decide
  have alive : p.status.isTerminal = false := by obtain hs | hs := hstatus <;> rw [hs] <;> rfl
  have hzero : p.confirmationDepth = 0 := by
    refine h.unconfirmed ?_
    obtain hs | hs := hstatus <;> rw [hs] <;> decide
  exact
    { paid_iff := h.paid_iff
      unpaid := nofun
      paid := by simp [move]
      hash := h.hash
      confirmed_iff := iff_of_false (by simp [move, h.unconfirmed_of_open alive]) nofun
      reason_iff := iff_of_false (by simp [move, h.no_reason_of_open alive]) nofun
      unconfirmed := fun _ => hzero
      confirming := nofun
      short := by simp [move]
      timely := h.timely
      overdue := fun _ => hlate }

theorem Coherent.failed (h : p.Coherent required) (alive : p.status.isTerminal = false) (late : p.status ≠ .created)
    (reason : String) (now : Instant) : (p.fail reason now).1.Coherent required := by
  have hstatus := pending_or_confirming alive late
  have hpaid : p.paidAt.isSome := by
    refine h.paid ?_
    obtain hs | hs := hstatus <;> rw [hs] <;> decide
  have hshort : p.confirmationDepth < required := by
    refine h.short ?_
    obtain hs | hs := hstatus <;> rw [hs] <;> decide
  exact
    { paid_iff := h.paid_iff
      unpaid := nofun
      paid := fun _ => hpaid
      hash := h.hash
      confirmed_iff := iff_of_false (by simp [fail, move, h.unconfirmed_of_open alive]) nofun
      reason_iff := iff_of_true rfl rfl
      unconfirmed := by simp [fail, move]
      confirming := nofun
      short := fun _ => hshort
      timely := h.timely
      overdue := nofun }

theorem Coherent.expire (h : p.Coherent required) (now : Instant) : (p.expire now).1.Coherent required := by
  unfold Payment.expire
  split
  case isTrue overdue => exact h.expired overdue
  case isFalse => exact h

theorem Coherent.reacts (h : p.Coherent policy.requiredConfirmations) {moved : Payment × PaymentTransition}
    (hreacts : p.Reacts policy event now moved) : moved.1.Coherent policy.requiredConfirmations := by
  cases hreacts with
  | ended | ignored => exact h
  | expired alive overdue => exact h.expired overdue
  | failed reason alive due late => exact h.failed alive late reason now
  | advanced alive due =>
    rcases Nat.lt_or_ge p.status.progress (target policy event).progress with hlt | hle
    · rw [advance_of_lt now hlt]
      exact h.noted alive due
    · rw [advance_of_le now hle]
      exact h

/-! ## Times -/

/-- When the invoice was written, the payment was first observed, and it was completed. -/
def timeline (p : Payment) : Timeline := ⟨p.createdAt :: (p.paidAt.toList ++ p.confirmedAt.toList), p.updatedAt⟩

theorem extends_expire (p : Payment) (now : Instant) : p.timeline.Extends now (p.expire now).1.timeline := by
  unfold Payment.expire
  split
  case isTrue => exact Timeline.extends_of_changed rfl rfl
  case isFalse => exact .inl rfl

theorem Coherent.extends_noted (h : p.Coherent required) (alive : p.status.isTerminal = false) (event : ChainEvent)
    (status : PaymentStatus) (now : Instant) :
    p.timeline.Extends now ((p.noted event status now).move status now).1.timeline := by
  have hunconfirmed := h.unconfirmed_of_open alive
  refine .inr ⟨rfl, ?_⟩
  by_cases created : p.status = .created
  · refine ⟨now :: (if status = .completed then [now] else []), ?_, ?_⟩
    · rw [noted_of_created created]
      simp only [timeline, move, h.unpaid created, hunconfirmed]
      split <;> rfl
    · split <;> simp
  · refine ⟨if status = .completed then [now] else [], ?_, ?_⟩
    · rw [noted_of_late created]
      simp only [timeline, move, hunconfirmed]
      split <;> simp
    · split <;> simp

theorem Coherent.extends_reacts (h : p.Coherent required) {moved : Payment × PaymentTransition}
    (hreacts : p.Reacts policy event now moved) : p.timeline.Extends now moved.1.timeline := by
  cases hreacts with
  | ended | ignored => exact .inl rfl
  | expired | failed => exact Timeline.extends_of_changed rfl rfl
  | advanced alive =>
    rcases Nat.lt_or_ge p.status.progress (target policy event).progress with hlt | hle
    · rw [advance_of_lt now hlt]
      exact h.extends_noted alive event _ now
    · rw [advance_of_le now hle]
      exact .inl rfl

end Payment
end Settlement
