import Settlement.Proofs.Balance.Credit
import Settlement.Proofs.Compliance.Gate
import Settlement.Proofs.Engine.Records
import Settlement.Proofs.Engine.Run

/-! What stands in every engine, whatever has been done to it. A stored payment is found by
its reference, its merchant has a balance and a profile, its fee is the one that the settings
ask for, and it does not ask for a negative amount. -/
namespace Settlement

theorem Exchange.convert_nonneg {amount rate converted : Decimal} (h : convert amount rate = .ok converted) :
    0 ≤ converted.toRat := by
  simp only [convert, bind_eq_ok, check_eq_ok, require_eq_ok] at h
  obtain ⟨-, hamount, -, hrate, hquotient⟩ := h
  exact Decimal.div?_nonneg (le_of_lt (Decimal.positive_iff_toRat.mp hamount))
    (le_of_lt (Decimal.positive_iff_toRat.mp hrate)) hquotient

namespace Engine

variable {config : SettlementConfig} {e next : Engine} {moment : Moment} {op : Operation}

/-! ## Preservation -/

/-- What single steps preserve, as far as they are allowed, operations preserve that are allowed. Events
have to be allowed anywhere, as a series of them is taken apart. -/
theorem perform_preserved (allowed : Engine → Operation → Prop) (hevent : ∀ e event, allowed e (.handleEvent event))
    {P : Engine → Prop}
    (hstep : ∀ {e next : Engine} {moment : Moment} {op : Operation}, Step e moment op next →
      allowed e op → P e → P next)
    (he : P e) (moment : Moment) (hop : allowed e op) : P (e.perform moment op).1 := by
  cases op with
  | runEvents events =>
    rw [← e.run_stepsOf]
    show P (e.run (e.eventSteps moment.held events))
    have hevents := e.exists_event_of_mem moment.held events
    generalize e.eventSteps moment.held events = steps at hevents
    clear hop
    induction steps generalizing e with
    | nil => exact he
    | cons step rest ih =>
      obtain ⟨⟨event, hop⟩, hrest⟩ := List.forall_mem_cons.mp hevents
      obtain ⟨now, op⟩ := step
      cases hop
      exact ih (hstep (e.handleEvent_step now event) (hevent e event) he) hrest
  | _ => exact hstep (e.perform_step moment _ trivial) hop he

/-- What single steps preserve holds at the end of a run in which every operation is allowed. -/
theorem Along.preserved {allowed : Engine → Operation → Prop} {P : Engine → Prop} {ops : List (Moment × Operation)}
    (h : e.Along (fun e _ op => allowed e op) ops) (hevent : ∀ e event, allowed e (.handleEvent event))
    (hstep : ∀ {e next : Engine} {moment : Moment} {op : Operation}, Step e moment op next →
      allowed e op → P e → P next)
    (he : P e) : P (e.run ops) := by
  induction ops generalizing e with
  | nil => exact he
  | cons step rest ih =>
    obtain ⟨hop, hrest⟩ := h
    exact ih hrest (perform_preserved allowed hevent hstep he step.1 hop)

theorem Reachable.preserved {P : Engine → Prop} (hopened : P (Engine.opened config))
    (hstep : ∀ {e next : Engine} {moment : Moment} {op : Operation}, Step e moment op next → P e → P next)
    (h : Reachable config e) : P e := by
  induction h with
  | opened => exact hopened
  | step moment op _ ih =>
    exact perform_preserved (fun _ _ => True) (fun _ _ => trivial) (fun hs _ => hstep hs) ih moment trivial

/-! ## Steps -/

theorem Step.config_eq (h : Step e moment op next) : next.config = e.config := by cases h <;> rfl

theorem Step.account_persists (h : Step e moment op next) {merchant : MerchantId}
    (hm : (e.balance? merchant).isSome) : (next.balance? merchant).isSome := by
  have hstored (other : MerchantId) (balance : Balance) :
      ((e.storeBalance other balance).balance? merchant).isSome := by
    rw [balance?_storeBalance]
    split
    · rfl
    · exact hm
  have hopened (other : MerchantId) : ((e.ledger.openAccount other moment.now).balance? merchant).isSome := by
    rw [balance?_openAccount]
    split
    · rfl
    · exact hm
  cases h with
  | idle | rate | profile | tier | volume | invoice | advance | sweep | lapse | act => exact hm
  | register merchant' tier => exact hopened merchant'
  | account merchant' => exact hopened merchant'
  | complete | move | request | finish | retry => exact hstored _ _

theorem retains_registerMerchant (e : Engine) (merchant : MerchantId) (tier : KycTier) (now : Instant) :
    e.gate.Retains (e.registerMerchant merchant tier now).gate now := by
  unfold registerMerchant
  cases h : e.gate.setTier merchant tier with
  | ok gate => exact ComplianceGate.retains_setTier h now
  | error fault => exact e.gate.retains_register merchant tier now

theorem Step.isSome_profile? (h : Step e moment op next) {merchant : MerchantId}
    (hm : (e.gate.profile? merchant).isSome) : (next.gate.profile? merchant).isSome := by
  cases h with
  | idle | rate | account | invoice | advance | sweep | lapse | move | request | act | finish | retry => exact hm
  | register other tier => exact (e.retains_registerMerchant other tier moment.now).isSome_profile? hm
  | profile other tier => exact (e.gate.retains_register other tier moment.now).isSome_profile? hm
  | tier known => exact (ComplianceGate.retains_setTier known moment.now).isSome_profile? hm
  | volume | complete => exact ComplianceGate.isSome_profile?_recordVolume hm

theorem Step.reference_persists (h : Step e moment op next) {reference : PaymentReference} {id : PaymentId}
    (hr : e.payments.references.get? reference = some id) :
    next.payments.references.get? reference = some id := by
  cases h with
  | @invoice fresh invoice p drafted unused =>
    have hne : reference ≠ p.reference := by
      rintro rfl
      cases hr.symm.trans unused
    exact (e.payments.references.get?_insert_of_ne hne p.id).trans hr
  | _ => exact hr

/-- A payment that is stored was stored before, and then nothing was done to it, the clock was looked at, or an
event with its reference changed it. Or an invoice has just been written for it. -/
theorem Step.payment_source (h : Step e moment op next) {id : PaymentId} {q : Payment}
    (hq : next.payment? id = some q) :
    (∃ p, e.payment? id = some p ∧ (q = p ∨ q = (p.expire moment.now).1 ∨
      ∃ event source target, op = .handleEvent event ∧ e.payments.references.get? event.reference = some id ∧
        p.applyEvent e.policy event moment.now = .ok (q, .applied source target))) ∨
    ∃ fresh invoice, e.draftPayment fresh invoice moment.now = .ok q ∧ q.id = id ∧
      next.payments.references.get? q.reference = some id ∧ op = .createInvoice fresh invoice := by
  have hstored {other : PaymentId} {p' : Payment} (hq : (e.storePayment other p').payment? id = some q) :
      id = other ∧ q = p' ∨ e.payment? id = some q := by
    rw [payment?_storePayment] at hq
    split at hq
    case isTrue ho => exact .inl ⟨ho, (Option.some.inj hq).symm⟩
    case isFalse => exact .inr hq
  cases h with
  | idle | register | rate | account | profile | tier | volume | move | request | act | finish | retry =>
    exact .inl ⟨q, hq, .inl rfl⟩
  | @invoice fresh invoice p drafted unused =>
    obtain ⟨rfl, rfl⟩ | hsame := hstored hq
    · right
      exact ⟨fresh, invoice, drafted, rfl, e.payments.references.get?_insert_self q.reference q.id, rfl⟩
    · exact .inl ⟨q, hsame, .inl rfl⟩
  | advance located stored applied =>
    obtain ⟨rfl, rfl⟩ | hsame := hstored hq
    · exact .inl ⟨_, stored, .inr (.inr ⟨_, _, _, rfl, located, applied⟩)⟩
    · exact .inl ⟨q, hsame, .inl rfl⟩
  | complete located stored applied =>
    obtain ⟨rfl, rfl⟩ | hsame := hstored hq
    · exact .inl ⟨_, stored, .inr (.inr ⟨_, _, _, rfl, located, applied⟩)⟩
    · exact .inl ⟨q, hsame, .inl rfl⟩
  | sweep =>
    rw [payment?_sweepExpired] at hq
    obtain ⟨p, hp, rfl⟩ := Option.map_eq_some_iff.mp hq
    exact .inl ⟨p, hp, (swept_cases moment id p).imp_right .inl⟩
  | lapse read stored =>
    obtain ⟨rfl, rfl⟩ | hsame := hstored hq
    · exact .inl ⟨_, stored, .inr (.inl rfl)⟩
    · exact .inl ⟨q, hsame, .inl rfl⟩

/-- A payment that is stored was stored before with the same draft, or an invoice has just been written
for it. -/
theorem Step.payment_origin (h : Step e moment op next) {id : PaymentId} {q : Payment}
    (hq : next.payment? id = some q) :
    (∃ p, e.payment? id = some p ∧ q.draft = p.draft) ∨
    ∃ fresh invoice, e.draftPayment fresh invoice moment.now = .ok q ∧ q.id = id ∧
      next.payments.references.get? q.reference = some id ∧ op = .createInvoice fresh invoice := by
  obtain ⟨p, hp, hcases⟩ | hdrafted := h.payment_source hq
  · refine .inl ⟨p, hp, ?_⟩
    obtain rfl | rfl | ⟨event, source, target, -, -, applied⟩ := hcases
    · rfl
    · exact p.draft_expire moment.now
    · exact (Payment.applyEvent_applied applied).2.1
  · exact .inr hdrafted

/-- A payout that is stored was stored before as it is, has been acted on, has been linked with its retry, or has been
opened by a valid request. -/
theorem Step.payout_source (h : Step e moment op next) {id : PayoutId} {q : Payout} (hq : next.payout? id = some q) :
    e.payout? id = some q ∨
    (∃ p actor action source target, e.payout? id = some p ∧
      p.act actor moment.now action = .ok (q, .applied source target)) ∨
    (∃ failed retry, e.payout? id = some failed ∧ failed.status = .failed ∧ q = failed.linked retry moment.now) ∨
    ∃ (request : PayoutRequest) (fee : Exchange.FeeBreakdown) (retry : Option Retry),
      request.validate e.config = .ok fee ∧ q = request.payout id fee retry moment.now ∧
        (op = .requestPayout id request ∨ ∃ failed actor, op = .resubmit failed id actor) := by
  have hstored {e : Engine} {other : PayoutId} {p' : Payout} (hq : (e.storePayout other p').payout? id = some q) :
      id = other ∧ q = p' ∨ e.payout? id = some q := by
    rw [payout?_storePayout] at hq
    split at hq
    case isTrue ho => exact .inl ⟨ho, (Option.some.inj hq).symm⟩
    case isFalse => exact .inr hq
  cases h with
  | idle | register | rate | account | profile | tier | volume | move | invoice | advance | complete | sweep | lapse =>
    exact .inl hq
  | request valid reserved =>
    obtain ⟨rfl, rfl⟩ | hsame := hstored hq
    · exact .inr (.inr (.inr ⟨_, _, none, valid, rfl, .inl rfl⟩))
    · exact .inl hsame
  | act stored acted =>
    obtain ⟨rfl, rfl⟩ | hsame := hstored hq
    · exact .inr (.inl ⟨_, _, _, _, _, stored, acted⟩)
    · exact .inl hsame
  | finish stored acted =>
    obtain ⟨rfl, rfl⟩ | hsame := hstored hq
    · exact .inr (.inl ⟨_, _, _, _, _, stored, acted⟩)
    · exact .inl hsame
  | retry stored status first valid reserved =>
    obtain ⟨rfl, rfl⟩ | hbefore := hstored hq
    · exact .inr (.inr (.inl ⟨_, _, stored, status, rfl⟩))
    · obtain ⟨rfl, rfl⟩ | hsame := hstored hbefore
      · exact .inr (.inr (.inr ⟨_, _, _, valid, rfl, .inr ⟨_, _, rfl⟩⟩))
      · exact .inl hsame

theorem Step.balance_origin (h : Step e moment op next) {merchant : MerchantId} {row : Balance}
    (hrow : next.balance? merchant = some row) :
    e.balance? merchant = some row ∨ (∃ now, row = .opened merchant now) ∨
    ∃ before op now, e.balance? merchant = some before ∧ before.apply op now = .ok row := by
  have hmoved {other : MerchantId} {op : LedgerOp} {balance : Balance} (moves : e.Moves moment other op balance)
      (hrow : (e.storeBalance other balance).balance? merchant = some row) :
      e.balance? merchant = some row ∨ (∃ now, row = .opened merchant now) ∨
      ∃ before op now, e.balance? merchant = some before ∧ before.apply op now = .ok row := by
    rw [balance?_storeBalance] at hrow
    split at hrow
    case isTrue ho =>
      cases hrow
      obtain ⟨before, hbefore, -, happly⟩ := moves
      exact .inr (.inr ⟨before, op, moment.now, ho ▸ hbefore, happly⟩)
    case isFalse => exact .inl hrow
  have hopened {other : MerchantId} (hrow : (e.ledger.openAccount other moment.now).balance? merchant = some row) :
      e.balance? merchant = some row ∨ (∃ now, row = .opened merchant now) ∨
      ∃ before op now, e.balance? merchant = some before ∧ before.apply op now = .ok row := by
    rw [balance?_openAccount] at hrow
    split at hrow
    case isTrue ho =>
      subst ho
      cases hb : e.balance? merchant with
      | some before =>
        rw [hb] at hrow
        exact .inl hrow
      | none =>
        rw [hb] at hrow
        cases hrow
        exact .inr (.inl ⟨moment.now, rfl⟩)
    case isFalse => exact .inl hrow
  cases h with
  | idle | rate | profile | tier | volume | invoice | advance | sweep | lapse | act => exact .inl hrow
  | register | account => exact hopened hrow
  | complete located stored applied credited => exact hmoved credited hrow
  | move moved => exact hmoved moved hrow
  | request valid reserved => exact hmoved reserved hrow
  | finish stored acted moves moved => exact hmoved moved hrow
  | retry stored status first valid reserved => exact hmoved reserved hrow

/-! ## Stored payments -/

/-- A payment is stored under its identifier and found by its reference, its merchant has a balance, and
its fee is computed from its amount as the settings say. -/
structure Standing (config : SettlementConfig) (e : Engine) : Prop where
  config_eq : e.config = config
  identified : ∀ id p, e.payment? id = some p → p.id = id
  located : ∀ id p, e.payment? id = some p → e.payments.references.get? p.reference = some id
  account : ∀ id p, e.payment? id = some p → (e.balance? p.merchantId).isSome
  split : ∀ id p, e.payment? id = some p →
    Exchange.computeFee p.invoiceAmount config.paymentFeePercent config.settlementCurrency =
      .ok ⟨p.feePercent, p.feeAmount, p.netAmount⟩

theorem Standing.step (he : e.Standing config) (h : Step e moment op next) : next.Standing config where
  config_eq := h.config_eq.trans he.config_eq
  identified id q hq := by
    obtain ⟨p, hp, hdraft⟩ | ⟨_, _, _, hid, _⟩ := h.payment_origin hq
    · have hid : q.draft.id = p.draft.id := congrArg Payment.id hdraft
      exact hid.trans (he.identified id p hp)
    · exact hid
  located id q hq := by
    obtain ⟨p, hp, hdraft⟩ | ⟨_, _, _, _, hr, _⟩ := h.payment_origin hq
    · have hreference : q.draft.reference = p.draft.reference := congrArg Payment.reference hdraft
      exact h.reference_persists (hreference ▸ he.located id p hp)
    · exact hr
  account id q hq := by
    refine h.account_persists ?_
    obtain ⟨p, hp, hdraft⟩ | ⟨_, _, hd, _, _⟩ := h.payment_origin hq
    · rw [Payment.merchantId_eq_of_draft hdraft]
      exact he.account id p hp
    · exact (drafted_of_ok hd).account
  split id q hq := by
    obtain ⟨p, hp, hdraft⟩ | ⟨_, _, hd, _, _⟩ := h.payment_origin hq
    · have hamount : q.draft.invoiceAmount = p.draft.invoiceAmount := congrArg Payment.invoiceAmount hdraft
      have hpercent : q.draft.feePercent = p.draft.feePercent := congrArg Payment.feePercent hdraft
      have hfee : q.draft.feeAmount = p.draft.feeAmount := congrArg Payment.feeAmount hdraft
      have hnet : q.draft.netAmount = p.draft.netAmount := congrArg Payment.netAmount hdraft
      simp only [Payment.draft] at hamount hpercent hfee hnet
      rw [hamount, hpercent, hfee, hnet]
      exact he.split id p hp
    · rw [← he.config_eq]
      exact (drafted_of_ok hd).split

theorem standing_opened (config : SettlementConfig) : (opened config).Standing config :=
  ⟨rfl, fun _ _ => nofun, fun _ _ => nofun, fun _ _ => nofun, fun _ _ => nofun⟩

theorem Reachable.standing (h : Reachable config e) : e.Standing config :=
  h.preserved (standing_opened config) fun hstep he => he.step hstep

/-- What every invoice is written with, and the clock and events preserve, holds of every stored payment. -/
theorem Reachable.payment_preserved {P : Payment → Prop}
    (hdrafted : ∀ {e : Engine} {fresh : FreshPayment} {invoice : NewInvoice} {now : Instant} {p : Payment},
      e.config = config → e.draftPayment fresh invoice now = .ok p → P p)
    (hexpire : ∀ {p : Payment} (now : Instant), P p → P (p.expire now).1)
    (hevent : ∀ {e : Engine} {event : ChainEvent} {now : Instant} {p q : Payment} {transition : PaymentTransition},
      e.config = config → p.applyEvent e.policy event now = .ok (q, transition) → P p → P q)
    (h : Reachable config e) {id : PaymentId} {p : Payment} (stored : e.payment? id = some p) : P p := by
  refine (h.preserved (P := fun e => e.config = config ∧ ∀ id p, e.payment? id = some p → P p)
    ⟨rfl, fun _ _ => nofun⟩ ?_).2 id p stored
  rintro e next moment op hstep ⟨hconfig, hall⟩
  refine ⟨hstep.config_eq.trans hconfig, fun id q hq => ?_⟩
  obtain ⟨p, hp, rfl | rfl | ⟨event, source, target, -, -, applied⟩⟩ | ⟨fresh, invoice, hd, -⟩ :=
    hstep.payment_source hq
  · exact hall id q hp
  · exact hexpire moment.now (hall id p hp)
  · exact hevent hconfig applied (hall id p hp)
  · exact hdrafted hconfig hd

theorem Reachable.tokenAmount_nonneg (h : Reachable config e) {id : PaymentId} {p : Payment}
    (stored : e.payment? id = some p) : 0 ≤ p.tokenAmount.toRat := by
  refine h.preserved (P := fun e => ∀ id p, e.payment? id = some p → 0 ≤ p.tokenAmount.toRat) (fun _ _ => nofun) ?_
    id p stored
  intro e next moment op hstep he id q hq
  obtain ⟨p, hp, hdraft⟩ | ⟨_, _, hd, _, _⟩ := hstep.payment_origin hq
  · have htoken : q.draft.tokenAmount = p.draft.tokenAmount := congrArg Payment.tokenAmount hdraft
    exact (congrArg Decimal.toRat htoken).symm ▸ he id p hp
  · obtain ⟨quote, -, htoken⟩ := (drafted_of_ok hd).quoted
    exact Exchange.convert_nonneg htoken

theorem Reachable.profiled (h : Reachable config e) {id : PaymentId} {p : Payment} (stored : e.payment? id = some p) :
    (e.gate.profile? p.merchantId).isSome := by
  refine h.preserved (P := fun e => ∀ id p, e.payment? id = some p → (e.gate.profile? p.merchantId).isSome)
    (fun _ _ => nofun) ?_ id p stored
  intro e next moment op hstep he id q hq
  refine hstep.isSome_profile? ?_
  obtain ⟨p, hp, hdraft⟩ | ⟨_, _, hd, _, _⟩ := hstep.payment_origin hq
  · rw [Payment.merchantId_eq_of_draft hdraft]
    exact he id p hp
  · obtain ⟨result, hadmitted⟩ := (drafted_of_ok hd).admitted
    exact ComplianceGate.isSome_profile?_of_evaluate hadmitted

/-! ## Balances -/

theorem Reachable.totalPaidOut_nonneg (h : Reachable config e) {merchant : MerchantId} {row : Balance}
    (hrow : e.balance? merchant = some row) : 0 ≤ row.totalPaidOut.toRat := by
  refine h.preserved (P := fun e => ∀ merchant row, e.balance? merchant = some row → 0 ≤ row.totalPaidOut.toRat)
    (fun _ _ => nofun) ?_ merchant row hrow
  intro e next moment op hstep he merchant row hrow
  obtain hold | ⟨now, rfl⟩ | ⟨before, op, now, hbefore, happly⟩ := hstep.balance_origin hrow
  · exact he merchant row hold
  · exact le_of_eq Decimal.toRat_zero.symm
  · exact Balance.totalPaidOut_nonneg_of_apply happly (he merchant before hbefore)

theorem Reachable.accepts_credit (h : Reachable config e) {merchant : MerchantId} {row : Balance} {amount : Decimal}
    (hrow : e.balance? merchant = some row) (conserving : row.Conserving) (positive : amount.Positive)
    (available : Decimal.Representable (row.available.toRat + amount.toRat))
    (received : Decimal.Representable (row.totalReceived.toRat + amount.toRat)) : row.Accepts (.credit amount) :=
  Balance.accepts_credit_of_conserving conserving (h.totalPaidOut_nonneg hrow) positive available received

end Engine
end Settlement
