import Settlement.Proofs.Payment.Agreement

/-! Observations that move a payment on. The record keeps the sender of the first one and the first hash that any of
them names, so it speaks for all of them. -/
namespace Settlement
namespace Payment

variable {p q : Payment} {policy : ConfirmationPolicy} {event : ChainEvent} {now : Instant}
  {source status : PaymentStatus} {transition : PaymentTransition}

/-- The observed amount is within the tolerance: its difference from the expected amount is, and so is the exact one if
a decimal can hold it. -/
structure Near (tolerance : Decimal) (p : Payment) (event : ChainEvent) : Prop where
  measured : ∃ difference, event.observedAmount.sub? p.tokenAmount = some difference ∧ difference.abs ≤ tolerance
  exact : Decimal.Representable (event.observedAmount.toRat - p.tokenAmount.toRat) →
    |event.observedAmount.toRat - p.tokenAmount.toRat| ≤ tolerance.toRat

theorem near_of_measured {tolerance difference : Decimal}
    (measured : event.observedAmount.sub? p.tokenAmount = some difference) (close : ¬ tolerance < difference.abs) :
    Near tolerance p event := by
  rw [Decimal.not_lt] at close
  refine ⟨⟨difference, measured, close⟩, fun hexact => ?_⟩
  obtain ⟨exact, hd, hvalue⟩ := Decimal.sub?_of_representable hexact
  cases measured.symm.trans hd
  rwa [Decimal.le_iff_toRat, Decimal.toRat_abs, hvalue] at close

theorem Near.of_draft {tolerance : Decimal} (h : Near tolerance p event) (same : q.draft = p.draft) :
    Near tolerance q event := by
  have htoken : q.draft.tokenAmount = p.draft.tokenAmount := congrArg tokenAmount same
  change q.tokenAmount = p.tokenAmount at htoken
  obtain ⟨⟨difference, measured, close⟩, exact⟩ := h
  rw [← htoken] at measured exact
  exact ⟨⟨difference, measured, close⟩, exact⟩

/-- The event moves the payment on as an observation of its transaction. -/
structure Takes (p : Payment) (policy : ConfirmationPolicy) (event : ChainEvent) (now : Instant) (q : Payment) :
    Prop where
  due : p.isOverdue now = false
  sound : event.error = none
  near : Near policy.amountTolerance p event
  agrees : p.status = .created ∨ p.SameTransaction event
  further : p.status.progress < (target policy event).progress
  next_eq : q = ((p.noted event (target policy event) now).move (target policy event) now).1

theorem applied_cases (h : p.applyEvent policy event now = .ok (q, .applied source status)) :
    q = (p.move .expired now).1 ∨ (∃ reason, q = (p.fail reason now).1) ∨ p.Takes policy event now q := by
  have hreacts := reacts_of_applyEvent h
  generalize hm : (q, PaymentTransition.applied source status) = moved at hreacts
  cases hreacts with
  | ended | ignored => cases hm
  | expired =>
    cases hm
    exact .inl rfl
  | failed reason =>
    cases hm
    exact .inr (.inl ⟨reason, rfl⟩)
  | advanced alive due sound measured close agrees =>
    rcases Nat.lt_or_ge p.status.progress (target policy event).progress with hlt | hle
    · rw [advance_of_lt now hlt] at hm
      exact .inr (.inr ⟨due, sound, near_of_measured measured close, agrees.imp_right conflict?_eq_none_iff.mp, hlt,
        congrArg Prod.fst hm⟩)
    · rw [advance_of_le now hle] at hm
      cases hm

namespace Takes

theorem status_eq (h : p.Takes policy event now q) : q.status = target policy event := by
  rw [h.next_eq]
  rfl

theorem draft_eq (h : p.Takes policy event now q) : q.draft = p.draft := by
  rw [h.next_eq, draft_move, draft_noted]

theorem senderAddress_eq (h : p.Takes policy event now q) : q.senderAddress = (p.observed event now).senderAddress := by
  rw [h.next_eq, noted]
  split <;> rfl

theorem txHash_eq (h : p.Takes policy event now q) : q.txHash = (p.observed event now).txHash := by
  rw [h.next_eq, noted]
  split <;> rfl

theorem sender_of_first (h : p.Takes policy event now q) (first : p.status = .created) :
    q.senderAddress = some event.senderAddress := by
  rw [h.senderAddress_eq, observed, if_pos first]

theorem sender_of_recorded (h : p.Takes policy event now q) {sender : String}
    (recorded : q.senderAddress = some sender) : event.senderAddress = sender := by
  by_cases first : p.status = .created
  · rw [h.sender_of_first first] at recorded
    exact Option.some.inj recorded
  · rw [h.senderAddress_eq, observed, if_neg first] at recorded
    exact ((h.agrees.resolve_left first).sender sender recorded).symm

theorem hash_of_named (h : p.Takes policy event now q) {hash : String} (named : event.txHash = some hash) :
    q.txHash = some hash := by
  rw [h.txHash_eq, observed]
  by_cases first : p.status = .created
  · rw [if_pos first]
    exact named
  · rw [if_neg first]
    show p.txHash.or event.txHash = some hash
    cases known : p.txHash with
    | none => exact named
    | some other => rw [(h.agrees.resolve_left first).hash other hash known named, Option.some_or]

theorem first_le (h : p.Takes policy event now q) (first : p.status = .created) : now ≤ p.expiresAt := by
  have hdue := h.due
  rw [isOverdue, first] at hdue
  exact Instant.not_lt.mp (of_decide_eq_false hdue)

theorem late (h : p.Takes policy event now q) : q.status ≠ .created := by
  rw [h.status_eq, target]
  split
  · exact nofun
  · split <;> exact nofun

theorem deep (h : p.Takes policy event now q) (completed : q.status = .completed) :
    event.finalized = true ∨ policy.requiredConfirmations ≤ event.confirmationDepth := by
  rw [h.status_eq, target] at completed
  by_contra hshallow
  rw [if_neg hshallow] at completed
  split at completed <;> cases completed

end Takes

structure Keeps (p q : Payment) : Prop where
  late : q.status ≠ .created
  sender : q.senderAddress = p.senderAddress
  hash : ∀ known, p.txHash = some known → q.txHash = some known

theorem Keeps.refl (late : p.status ≠ .created) : p.Keeps p := ⟨late, rfl, fun _ known => known⟩

theorem Keeps.trans {r : Payment} (h : p.Keeps q) (h' : q.Keeps r) : p.Keeps r :=
  ⟨h'.late, h'.sender.trans h.sender, fun known hknown => h'.hash known (h.hash known hknown)⟩

theorem keeps_expire (late : p.status ≠ .created) : p.Keeps (p.expire now).1 := by
  unfold expire
  split
  · exact ⟨nofun, rfl, fun _ known => known⟩
  · exact .refl late

theorem keeps_of_applied (h : p.applyEvent policy event now = .ok (q, .applied source status))
    (late : p.status ≠ .created) : p.Keeps q := by
  obtain rfl | ⟨reason, rfl⟩ | htakes := applied_cases h
  · exact ⟨nofun, rfl, fun _ known => known⟩
  · exact ⟨nofun, rfl, fun _ known => known⟩
  · refine ⟨htakes.late, ?_, fun known hknown => ?_⟩
    · rw [htakes.senderAddress_eq, observed, if_neg late]
    · rw [htakes.txHash_eq, observed, if_neg late]
      show p.txHash.or event.txHash = some known
      rw [hknown, Option.some_or]

theorem applyEvent_ne_refused (late : p.status ≠ .created) {error : SettlementError} :
    p.applyEvent policy event now ≠ .error (.refused error) := by
  unfold applyEvent
  simp only [if_neg late]
  split
  · exact nofun
  split
  · exact nofun
  cases event.error with
  | some reason => exact nofun
  | none =>
    refine bind_ne_error (unguarded_ne_error nofun) fun difference => ?_
    split
    · exact nofun
    · cases p.conflict? event <;> exact nofun

def Intact (p : Payment) : Prop := p.status ≠ .expired ∧ p.status ≠ .failed

/-- An event that reaches an observed payment, and leaves it intact, agrees with what was observed. -/
theorem agrees_of_intact (h : p.applyEvent policy event now = .ok (q, transition)) (alive : p.status.isTerminal = false)
    (late : p.status ≠ .created) (intact : q.Intact) :
    event.error = none ∧ Near policy.amountTolerance p event ∧ p.SameTransaction event := by
  have hreacts := reacts_of_applyEvent h
  generalize hm : (q, transition) = moved at hreacts
  cases hreacts with
  | ended terminal =>
    rw [alive] at terminal
    cases terminal
  | expired =>
    cases hm
    exact absurd rfl intact.1
  | failed =>
    cases hm
    exact absurd rfl intact.2
  | ignored early => exact absurd early late
  | advanced _ _ sound measured close agrees =>
    exact ⟨sound, near_of_measured measured close, conflict?_eq_none_iff.mp (agrees.resolve_left late)⟩

end Payment
end Settlement
