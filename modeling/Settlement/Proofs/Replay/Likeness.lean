import Settlement.Proofs.Compliance.Volume
import Settlement.Proofs.Engine.Lapse
import Settlement.Proofs.Payout.Life

/-! Records of two replays, compared without the identifiers that were drawn and without the times at which
they were written. Of the clocks only counts which readings share a day or a month, and which are later than a
deadline. -/
namespace Settlement

open Engine (Answers)

/-- How two replays are compared. -/
structure Comparison where
  /-- Readings of the two clocks that belong together. -/
  paired : Instant → Instant → Prop
  /-- Such readings at which volumes are checked or counted. -/
  counted : Instant → Instant → Prop
  daily : Prop
  monthly : Prop
  quoted : PaymentReference → Prop
  tier : KycTier
  days : daily → ∀ {t t' s s' : Instant}, counted t t' → counted s s' → (t'.day = s'.day ↔ t.day = s.day)
  months : monthly → ∀ {t t' s s' : Instant}, counted t t' → counted s s' →
    (t'.day.SameMonth s'.day ↔ t.day.SameMonth s.day)

variable {π : Comparison} {now now' : Instant}

namespace Engine.Answers

variable {α β γ δ : Type} {R : α → β → Prop} {S : γ → δ → Prop}

theorem bind {x : Except Fault α} {y : Except Fault β} {f : α → Except Fault γ} {g : β → Except Fault δ}
    (h : Answers R x y) (hfg : ∀ {a : α} {b : β}, R a b → Answers S (f a) (g b)) : Answers S (x >>= f) (y >>= g) := by
  cases h with
  | ok hab => exact hfg hab
  | error fault => exact .error fault

theorem with_results {x : Except Fault α} {y : Except Fault β} (h : Answers R x y) :
    Answers (fun a b => R a b ∧ x = .ok a ∧ y = .ok b) x y := by
  cases h with
  | ok hab => exact .ok ⟨hab, rfl, rfl⟩
  | error fault => exact .error fault

theorem isNone_eq {x : Option α} {y : Option β} {error : SettlementError}
    (h : Answers R (require x error) (require y error)) : y.isNone = x.isNone := by
  cases x <;> cases y
  case none.none | some.some => rfl
  case none.some | some.none => nomatch h

end Engine.Answers

/-! ## Balances -/

structure Amounts where
  available : Decimal
  pending : Decimal
  totalReceived : Decimal
  totalPaidOut : Decimal
  deriving DecidableEq

def Amounts.zero : Amounts := ⟨.zero, .zero, .zero, .zero⟩

namespace Balance

variable {b b' : Balance}

def amounts (b : Balance) : Amounts := ⟨b.available, b.pending, b.totalReceived, b.totalPaidOut⟩

theorem eq_of_amounts (h : b'.amounts = b.amounts) :
    b' = { b with merchantId := b'.merchantId, updatedAt := b'.updatedAt } := by
  cases b
  cases b'
  simpa [amounts] using h

theorem answers_moved (h : b'.amounts = b.amounts) (op : LedgerOp) :
    Answers (fun c c' => c'.amounts = c.amounts) (b.moved op) (b'.moved op) := by
  have hsum {α β : Type} {R : α → β → Prop} (sum : Option Decimal) {f : Decimal → Except Fault α}
      {g : Decimal → Except Fault β} (hfg : ∀ d, Answers R (f d) (g d)) :
      Answers R (unguarded sum >>= f) (unguarded sum >>= g) :=
    (Answers.refl (unguarded sum)).bind fun {a b} hab => hab ▸ hfg a
  rw [eq_of_amounts h]
  cases op with
  | credit | release | settle => exact hsum _ fun _ => hsum _ fun _ => .ok rfl
  | reserve amount =>
    exact (Answers.refl (check (amount ≤ b.available) .insufficientFunds)).bind fun _ =>
      hsum _ fun _ => hsum _ fun _ => .ok rfl

theorem checkSums_congr (h : b'.amounts = b.amounts) : b'.checkSums = b.checkSums := by
  rw [eq_of_amounts h]
  rfl

theorem answers_apply (h : b'.amounts = b.amounts) (op : LedgerOp) :
    Answers (fun c c' => c'.amounts = c.amounts) (b.apply op now) (b'.apply op now') := by
  refine (Answers.refl (check op.amount.Positive .invalidAmount)).bind fun _ => ?_
  refine (answers_moved h op).bind fun {c c'} hc => ?_
  rw [checkSums_congr hc]
  exact (Answers.refl c.checkSums).bind fun _ => .ok hc

end Balance

/-! ## Volumes -/

namespace ComplianceProfile

variable {p p' : ComplianceProfile}

/-- The volumes that are compared are read alike. -/
structure Alike (π : Comparison) (p p' : ComplianceProfile) : Prop where
  daily : π.daily → ∀ {t t' : Instant}, π.counted t t' → p'.dailyVolumeAt t' = p.dailyVolumeAt t
  monthly : π.monthly → ∀ {t t' : Instant}, π.counted t t' → p'.monthlyVolumeAt t' = p.monthlyVolumeAt t

theorem tier_addVolume (p : ComplianceProfile) (amount : Decimal) (now : Instant) :
    (p.addVolume amount now).1.tier = p.tier := by
  unfold addVolume
  cases (p.dailyVolumeAt now).add? amount with
  | none => rfl
  | some daily => cases (p.monthlyVolumeAt now).add? amount <;> rfl

theorem Alike.counted (hnow : π.counted now now') {daily daily' monthly monthly' : Decimal}
    (hdaily : π.daily → daily' = daily) (hmonthly : π.monthly → monthly' = monthly) :
    Alike π { p with dailyVolume := daily, monthlyVolume := monthly, day := now.day }
      { p' with dailyVolume := daily', monthlyVolume := monthly', day := now'.day } where
  daily h t t' ht := by simp only [dailyVolumeAt, π.days h ht hnow, hdaily h]
  monthly h t t' ht := by simp only [monthlyVolumeAt, π.months h ht hnow, hmonthly h]

/-- An amount is counted alike, unless one of the counters overflows; and they overflow together if both are
compared. -/
theorem Alike.addVolume (h : p.Alike π p') (hnow : π.counted now now') (amount : Decimal) :
    ((p.addVolume amount now).2 = .ok () ∧ (p'.addVolume amount now').2 = .ok () ∧
      (p.addVolume amount now).1.Alike π (p'.addVolume amount now').1) ∨
    ((p.addVolume amount now).2 = .error .overflow ∧ (p'.addVolume amount now').2 = .error .overflow) ∨
    ¬ (π.daily ∧ π.monthly) ∧
      ((p.addVolume amount now).2 = .error .overflow ∨ (p'.addVolume amount now').2 = .error .overflow) := by
  by_cases hboth : π.daily ∧ π.monthly
  · have hdaily := h.daily hboth.1 hnow
    have hmonthly := h.monthly hboth.2 hnow
    unfold ComplianceProfile.addVolume
    rw [hdaily, hmonthly]
    cases (p.dailyVolumeAt now).add? amount with
    | none => exact .inr (.inl ⟨rfl, rfl⟩)
    | some daily =>
      cases (p.monthlyVolumeAt now).add? amount with
      | none => exact .inr (.inl ⟨rfl, rfl⟩)
      | some monthly => exact .inl ⟨rfl, rfl, .counted hnow (fun _ => rfl) fun _ => rfl⟩
  · obtain hp | hp := p.addVolume_snd amount now
    · obtain hp' | hp' := p'.addVolume_snd amount now'
      · refine .inl ⟨hp, hp', ?_⟩
        obtain ⟨q, hq⟩ : ∃ q, p.addVolume amount now = (q, .ok ()) := ⟨_, Prod.ext rfl hp⟩
        obtain ⟨q', hq'⟩ : ∃ q', p'.addVolume amount now' = (q', .ok ()) := ⟨_, Prod.ext rfl hp'⟩
        rw [hq, hq']
        obtain ⟨d, m, hd, hm, rfl⟩ := addVolume_eq_ok.mp hq
        obtain ⟨d', m', hd', hm', rfl⟩ := addVolume_eq_ok.mp hq'
        refine .counted hnow (fun hdaily => ?_) fun hmonthly => ?_
        · rw [h.daily hdaily hnow, hd] at hd'
          exact (Option.some.inj hd').symm
        · rw [h.monthly hmonthly hnow, hm] at hm'
          exact (Option.some.inj hm').symm
      · exact .inr (.inr ⟨hboth, .inr hp'⟩)
    · exact .inr (.inr ⟨hboth, .inl hp⟩)

theorem Alike.remainingLimit_eq (h : p.Alike π p') (hnow : π.counted now now') {limits : TierLimits}
    (hdaily : limits.daily.isSome → π.daily) (hmonthly : limits.monthly.isSome → π.monthly) :
    p'.remainingLimit limits now' = p.remainingLimit limits now := by
  have hleft {limit : Option Decimal} {volume volume' : Decimal} (hv : limit.isSome → volume' = volume) :
      left limit volume' = left limit volume := by
    cases limit with
    | none => rfl
    | some limit => rw [hv rfl]
  rw [remainingLimit, remainingLimit, hleft fun hd => h.daily (hdaily hd) hnow,
    hleft fun hm => h.monthly (hmonthly hm) hnow]

end ComplianceProfile

/-! ## Payments -/

namespace Payment

variable {p p' : Payment} {policy : ConfirmationPolicy} {event : ChainEvent}

/-- Two payments of one invoice that have been paid alike so far, and are overdue together. -/
structure Alike (π : Comparison) (p p' : Payment) : Prop where
  status : p'.status = p.status
  invoiceAmount : p'.invoiceAmount = p.invoiceAmount
  tokenAmount : p'.tokenAmount = p.tokenAmount
  netAmount : p'.netAmount = p.netAmount
  txHash : p'.txHash = p.txHash
  senderAddress : p'.senderAddress = p.senderAddress
  due : ∀ {t t' : Instant}, π.paired t t' → (p'.expiresAt < t' ↔ p.expiresAt < t)

def AlikeMoved (π : Comparison) (moved moved' : Payment × PaymentTransition) : Prop :=
  moved.1.Alike π moved'.1 ∧ moved'.2 = moved.2

namespace Alike

theorem isOverdue (h : p.Alike π p') (hnow : π.paired now now') : p'.isOverdue now' = p.isOverdue now := by
  rw [Payment.isOverdue, Payment.isOverdue, h.status, decide_eq_decide.mpr (h.due hnow)]

theorem move (h : p.Alike π p') (status : PaymentStatus) : AlikeMoved π (p.move status now) (p'.move status now') :=
  ⟨{ h with status := rfl }, by rw [Payment.move, Payment.move, h.status]⟩

theorem fail (h : p.Alike π p') (reason : String) : AlikeMoved π (p.fail reason now) (p'.fail reason now') := by
  have hnoted : Alike π { p with failureReason := some reason } { p' with failureReason := some reason } := { h with }
  exact hnoted.move .failed

theorem unchanged (h : p.Alike π p') : AlikeMoved π (p, .unchanged p.status) (p', .unchanged p'.status) :=
  ⟨h, by rw [h.status]⟩

theorem expire (h : p.Alike π p') (hnow : π.paired now now') : AlikeMoved π (p.expire now) (p'.expire now') := by
  cases ho : p.isOverdue now with
  | true =>
    rw [expire_of_overdue ho, expire_of_overdue ((h.isOverdue hnow).trans ho)]
    exact h.move .expired
  | false =>
    rw [expire_of_not_overdue ho, expire_of_not_overdue ((h.isOverdue hnow).trans ho)]
    exact h.unchanged

theorem conflict?_eq (h : p.Alike π p') : p'.conflict? event = p.conflict? event := by
  simp only [conflict?, conflict?.hashConflict?, h.senderAddress, h.txHash]

theorem observed (h : p.Alike π p') : (p.observed event now).Alike π (p'.observed event now') := by
  unfold Payment.observed
  rw [h.status]
  split
  · exact { h with status := rfl, senderAddress := rfl, txHash := rfl }
  · exact { h with status := rfl, txHash := by rw [h.txHash] }

theorem noted (h : p.Alike π p') (status : PaymentStatus) :
    (p.noted event status now).Alike π (p'.noted event status now') := by
  unfold Payment.noted
  split
  · have hobserved : (p.observed event now).Alike π (p'.observed event now') := h.observed
    exact { hobserved with }
  · exact h.observed

theorem advance (h : p.Alike π p') : AlikeMoved π (p.advance policy event now) (p'.advance policy event now') := by
  rcases Nat.lt_or_ge p.status.progress (target policy event).progress with hlt | hle
  · rw [advance_of_lt now hlt, advance_of_lt now' (h.status ▸ hlt)]
    exact (h.noted _).move _
  · rw [advance_of_le now hle, advance_of_le now' (h.status ▸ hle)]
    exact h.unchanged

theorem applyEvent (h : p.Alike π p') (hnow : π.paired now now') :
    Answers (AlikeMoved π) (p.applyEvent policy event now) (p'.applyEvent policy event now') := by
  unfold Payment.applyEvent
  rw [h.isOverdue hnow, h.tokenAmount, h.conflict?_eq]
  have hexpire := h.expire hnow
  have hunchanged := h.unchanged
  rw [h.status] at hunchanged ⊢
  by_cases ht : p.status.isTerminal = true
  · rw [if_pos ht, if_pos ht]
    exact .ok hunchanged
  rw [if_neg ht, if_neg ht]
  by_cases ho : p.isOverdue now = true
  · rw [if_pos ho, if_pos ho]
    exact .ok hexpire
  rw [if_neg ho, if_neg ho]
  cases event.error with
  | some error =>
    by_cases hc : p.status = .created
    · simp only [if_pos hc]
      exact .ok hunchanged
    · simp only [if_neg hc]
      exact .ok (h.fail _)
  | none =>
    refine (Answers.refl (unguarded (event.observedAmount.sub? p.tokenAmount))).bind fun {difference _} heq => ?_
    subst heq
    by_cases ha : policy.amountTolerance < difference.abs
    · rw [if_pos ha, if_pos ha]
      by_cases hc : p.status = .created
      · rw [if_pos hc, if_pos hc]
        exact .error _
      · rw [if_neg hc, if_neg hc]
        exact .ok (h.fail _)
    · rw [if_neg ha, if_neg ha]
      cases (if p.status = .created then none else p.conflict? event) with
      | some reason => exact .ok (h.fail reason)
      | none => exact .ok h.advance

end Alike
end Payment

/-! ## Payouts -/

namespace Payout

variable {p p' : Payout}

/-- Two payouts of one amount that have come as far. -/
structure Alike (p p' : Payout) : Prop where
  status : p'.status = p.status
  amount : p'.amount = p.amount

def AlikeMoved (moved moved' : Payout × PayoutTransition) : Prop := moved.1.Alike moved'.1 ∧ moved'.2 = moved.2

theorem Alike.move (h : p.Alike p') (status : PayoutStatus) : AlikeMoved (p.move status now) (p'.move status now') :=
  ⟨⟨rfl, h.amount⟩, by rw [Payout.move, Payout.move, h.status]⟩

theorem Alike.act (h : p.Alike p') (actor : ActorId) (action : PayoutAction) :
    Answers AlikeMoved (p.act actor now action) (p'.act actor now' action) := by
  have htext (text : String) (missing : SettlementError) {f g : String → Except Fault (Payout × PayoutTransition)}
      (hfg : ∀ t, Answers AlikeMoved (f t) (g t)) :
      Answers AlikeMoved (requireText text missing >>= f) (requireText text missing >>= g) :=
    (Answers.refl _).bind fun {a b} hab => hab ▸ hfg a
  have hmoved {q q' : Payout} (status : PayoutStatus) (hstatus : q'.status = q.status) (hamount : q'.amount = q.amount) :
      Answers AlikeMoved (pure (q.move status now)) (pure (q'.move status now')) :=
    .ok (Alike.move ⟨hstatus, hamount⟩ status)
  have hamount := h.amount
  cases action with
  | approve =>
    simp only [Payout.act, approve, h.status]
    cases hs : p.status with
    | requested => exact hmoved .approved rfl hamount
    | _ => exact .error _
  | startProcessing =>
    simp only [Payout.act, startProcessing, h.status]
    cases hs : p.status with
    | approved => exact hmoved .processing h.status hamount
    | _ => exact .error _
  | complete text =>
    simp only [Payout.act, complete, h.status]
    cases hs : p.status with
    | completed => exact .ok ⟨h, rfl⟩
    | approved => exact htext _ _ fun _ => hmoved .completed h.status hamount
    | processing => exact htext _ _ fun _ => hmoved .completed rfl hamount
    | _ => exact .error _
  | reject text =>
    simp only [Payout.act, reject, h.status]
    cases hs : p.status with
    | rejected => exact .ok ⟨h, rfl⟩
    | requested => exact htext _ _ fun _ => hmoved .rejected rfl hamount
    | _ => exact .error _
  | fail text =>
    simp only [Payout.act, Payout.fail, h.status]
    cases hs : p.status with
    | failed => exact .ok ⟨h, rfl⟩
    | approved | processing => exact htext _ _ fun _ => hmoved .failed rfl hamount
    | _ => exact .error _

end Payout
end Settlement
