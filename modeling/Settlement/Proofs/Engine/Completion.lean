import Settlement.Proofs.Engine.Atomicity
import Settlement.Proofs.Engine.Handling
import Settlement.Proofs.Engine.Standing
import Settlement.Proofs.Fee
import Settlement.Proofs.Payment.Agreement

/-! When a paid invoice completes. An event that settles an open payment always leads to a
credit, so that the row of the merchant decides: it refuses an invoice whose fee leaves
nothing, and may refuse one where rounding has slipped before. -/
namespace Settlement

/-- The event is final, and of the whole amount in the transaction that is known. -/
structure Payment.Settles (p : Payment) (event : ChainEvent) : Prop where
  reference : event.reference = p.reference
  error : event.error = none
  finalized : event.finalized = true
  amount : event.observedAmount.SameValue p.tokenAmount
  transaction : p.SameTransaction event

def Payment.settled (p : Payment) (event : ChainEvent) (now : Instant) : Payment :=
  ((p.noted event .completed now).move .completed now).1

theorem Payment.applyEvent_of_settles {p : Payment} {policy : ConfirmationPolicy} {event : ChainEvent} {now : Instant}
    (alive : p.status.isTerminal = false) (due : p.isOverdue now = false)
    (tolerant : Decimal.zero ≤ policy.amountTolerance) (settles : p.Settles event) :
    p.applyEvent policy event now = .ok (p.settled event now, .applied p.status .completed) := by
  have hsound : p.Sound policy event := sound_of_sameValue settles.error settles.amount tolerant
  have htarget : target policy event = .completed := target_of_finalized settles.finalized
  have hfurther : p.status.progress < (target policy event).progress := by
    rw [htarget]
    exact progress_lt_of_open alive
  rw [applyEvent_of_sound alive due hsound (.inr settles.transaction), advance_of_lt now hfurther, htarget]
  rw [settled, move, status_noted]

theorem Payment.amounts_settled (p : Payment) (event : ChainEvent) (now : Instant) :
    (p.settled event now).merchantId = p.merchantId ∧ (p.settled event now).netAmount = p.netAmount ∧
      (p.settled event now).invoiceAmount = p.invoiceAmount := by
  have hdraft : (p.settled event now).draft = p.draft := p.draft_noted event .completed now
  have hinvoice := congrArg invoiceAmount hdraft
  exact ⟨merchantId_eq_of_draft hdraft, netAmount_eq_of_draft hdraft, hinvoice⟩

namespace Engine

open Decimal

variable {config : SettlementConfig} {e : Engine} {moment : Moment} {event : ChainEvent} {id : PaymentId} {p : Payment}

/-- While nobody else holds the payment or the balance, an event that settles an open payment completes it and credits
its merchant with the net amount if the row of the merchant accepts that, and else it is refused and changes nothing. An
invoice whose fee is no less than its amount is always refused; where rounding has not slipped, no other one is whose
sums decimals can hold. -/
theorem settling_event_completes_iff_credit_accepted (h : Reachable config e)
    (tolerant : Decimal.zero ≤ config.amountTolerance) (stored : e.payment? id = some p)
    (alive : p.status.isTerminal = false) (due : p.isOverdue moment.now = false) (settles : p.Settles event)
    (free : p.merchantId ∉ moment.held.balances) (alone : id ∉ moment.held.payments)
    (countable : (e.gate.recordVolume p.merchantId p.invoiceAmount moment.now).2 ≠ .error .overflow) :
    ∃ row, e.balance? p.merchantId = some row ∧
      ((e.perform moment (.handleEvent event)).2 = .ok (.transition (.applied p.status .completed)) ↔
        row.Accepts (.credit p.netAmount)) ∧
      (row.Accepts (.credit p.netAmount) → ∃ balance, row.apply (.credit p.netAmount) moment.now = .ok balance ∧
        (e.perform moment (.handleEvent event)).1 = e.completed id (p.settled event moment.now) balance moment.now) ∧
      (¬ row.Accepts (.credit p.netAmount) → (e.perform moment (.handleEvent event)).1 = e) ∧
      (p.invoiceAmount.toRat ≤ p.feeAmount.toRat →
        (e.perform moment (.handleEvent event)).2 = .error (.refused .invalidAmount)) ∧
      (p.feeAmount.toRat < p.invoiceAmount.toRat → row.Conserving →
        Representable (row.available.toRat + p.netAmount.toRat) →
        Representable (row.totalReceived.toRat + p.netAmount.toRat) → row.Accepts (.credit p.netAmount)) := by
  have hstanding : e.Standing config := h.standing
  obtain ⟨row, hrow⟩ := Option.isSome_iff_exists.mp (hstanding.account id p stored)
  have hpositive := Exchange.computeFee_net_positive_iff (hstanding.split id p stored)
  have hlocated : e.payments.references.get? event.reference = some id :=
    settles.reference ▸ hstanding.located id p stored
  have htolerant : Decimal.zero ≤ e.policy.amountTolerance := by
    rw [policy, hstanding.config_eq]
    exact tolerant
  have htaken := lockPayment_eq_ok.mpr ⟨stored, alone⟩
  have happlied := Payment.applyEvent_of_settles alive due htolerant settles
  obtain ⟨hmerchant, hnet, hinvoice⟩ := p.amounts_settled event moment.now
  have hcredited (balance : Balance) (hb : row.apply (.credit p.netAmount) moment.now = .ok balance) :=
    perform_handleEvent_of_credited hlocated htaken (hmerchant.symm ▸ hrow) (hmerchant.symm ▸ free) happlied
      (hnet.symm ▸ hb)
  have hrefused (fault : Fault) (hf : row.apply (.credit p.netAmount) moment.now = .error fault) :=
    perform_handleEvent_of_refused hlocated htaken (hmerchant.symm ▸ hrow) (hmerchant.symm ▸ free) happlied
      (hnet.symm ▸ hf)
  refine ⟨row, hrow, ?_, ?_, ?_, ?_, ?_⟩
  · constructor
    · intro hanswer
      by_contra hr
      obtain ⟨fault, hf⟩ := Balance.exists_error_of_not_accepts moment.now hr
      rw [hrefused fault hf] at hanswer
      cases hanswer
    · intro ha
      obtain ⟨balance, hb⟩ := (Balance.accepts_iff moment.now).mp ha
      exact (hcredited balance hb).2 (hmerchant.symm ▸ hinvoice.symm ▸ countable)
  · intro ha
    obtain ⟨balance, hb⟩ := (Balance.accepts_iff moment.now).mp ha
    exact ⟨balance, hb, (hcredited balance hb).1⟩
  · intro hr
    obtain ⟨fault, hf⟩ := Balance.exists_error_of_not_accepts moment.now hr
    rw [hrefused fault hf]
  · intro hfee
    have hnone : ¬ p.netAmount.Positive := fun hpos => absurd (hpositive.mp hpos) (not_lt.mpr hfee)
    rw [hrefused _ (Balance.apply_of_not_positive moment.now hnone)]
  · intro hfee hconserving havailable hreceived
    exact h.accepts_credit hrow hconserving (hpositive.mpr hfee) havailable hreceived

def opening : Moment := ⟨.epoch, {}⟩

def finalPayment : ChainEvent := ⟨⟨"PAY-7"⟩, some "tx", "payer", whole 100, 20, true, none⟩

/-- It completes the payment of the invoice. -/
theorem invoice_paid_in_full_completes :
    (((opened .default).run invoiced).perform opening (.handleEvent finalPayment)).2 =
      .ok (.transition (.applied .created .completed)) := by
  have hreachable : Reachable .default ((opened .default).run invoiced) := reachable_run .opened invoiced
  obtain ⟨p, hp, hsender, hhash, href, hamount, hstatus, hdue, hmerchant, hcountable, haccepts⟩ :
      ∃ p, ((opened .default).run invoiced).payment? ⟨7⟩ = some p ∧ p.senderAddress = none ∧ p.txHash = none ∧
        p.reference = ⟨"PAY-7"⟩ ∧ p.tokenAmount = whole 100 ∧ p.status = .created ∧ p.isOverdue opening.now = false ∧
        p.merchantId = ⟨1⟩ ∧
        (((opened .default).run invoiced).gate.recordVolume p.merchantId p.invoiceAmount opening.now).2 = .ok () ∧
        ∃ next, (Balance.opened ⟨1⟩ .epoch).apply (.credit p.netAmount) .epoch = .ok next :=
    ⟨_, rfl, rfl, rfl, rfl, rfl, rfl, rfl, rfl, rfl, _, rfl⟩
  have hsettles : p.Settles finalPayment := by
    refine ⟨href.symm, rfl, rfl, ?_, ?_, ?_⟩
    · rw [hamount]
      decide
    · simp [hsender]
    · simp [hhash]
  have hfree : p.merchantId ∉ opening.held.balances := List.not_mem_nil
  obtain ⟨row, hrow, hiff, -⟩ := settling_event_completes_iff_credit_accepted hreachable (by decide) hp
    (by rw [hstatus]; rfl) hdue hsettles hfree List.not_mem_nil (by rw [hcountable]; nofun)
  rw [hstatus] at hiff
  rw [hmerchant] at hrow
  cases hrow
  exact hiff.mpr ((Balance.accepts_iff .epoch).mpr haccepts)

def feeOnly : SettlementConfig := { SettlementConfig.default with paymentFeePercent := .hundred }

/-- Under them the payment of the invoice is refused, though the event settles it. -/
theorem invoice_with_whole_fee_never_completes :
    ∃ p, ((opened feeOnly).run invoiced).payment? ⟨7⟩ = some p ∧ p.status = .created ∧
      p.isOverdue opening.now = false ∧ p.Settles finalPayment ∧ Decimal.zero ≤ feeOnly.amountTolerance ∧
      (((opened feeOnly).run invoiced).gate.recordVolume p.merchantId p.invoiceAmount opening.now).2 = .ok () ∧
      (((opened feeOnly).run invoiced).perform opening (.handleEvent finalPayment)).2 =
        .error (.refused .invalidAmount) := by
  refine ⟨_, rfl, rfl, rfl, ⟨rfl, rfl, rfl, ?_, ⟨fun _ => nofun, fun _ _ => nofun⟩⟩, by decide, rfl, rfl⟩
  decide

end Engine
end Settlement
