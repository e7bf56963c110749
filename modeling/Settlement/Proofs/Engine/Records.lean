import Settlement.Proofs.Engine.Step
import Settlement.Proofs.Payment.Life
import Settlement.Proofs.Payout.Life

/-! Records of payments and payouts are never dropped, and what they were written with
never changes. -/
namespace Settlement
namespace Engine

variable {e next : Engine} {moment : Moment} {op : Operation}

/-- The payment that an invoice asks for: it bears the names of the invoice, its amounts are computed from the amount
of the invoice, and its merchant is admitted and has a balance. -/
structure Drafted (e : Engine) (fresh : FreshPayment) (invoice : NewInvoice) (now : Instant) (p : Payment) : Prop where
  id_eq : p.id = fresh.id
  reference_eq : p.reference = invoice.reference.getD fresh.reference
  merchantId_eq : p.merchantId = invoice.merchantId
  amount_eq : p.invoiceAmount = invoice.amount
  status_eq : p.status = .created
  valid : invoice.validate = .ok ()
  quoted : ∃ quote, e.rates.rate (.ofCodes e.config.tokenCurrency.code e.config.settlementCurrency.code) = .ok quote ∧
    Exchange.convert p.invoiceAmount quote.rate = .ok p.tokenAmount
  split : Exchange.computeFee p.invoiceAmount e.config.paymentFeePercent e.config.settlementCurrency =
    .ok ⟨p.feePercent, p.feeAmount, p.netAmount⟩
  admitted : ∃ result, e.gate.evaluate p.merchantId p.invoiceAmount p.usdEquivalent p.payer now = .ok result
  account : (e.balance? p.merchantId).isSome

theorem drafted_of_ok {fresh : FreshPayment} {invoice : NewInvoice} {now : Instant} {p : Payment}
    (h : e.draftPayment fresh invoice now = .ok p) : e.Drafted fresh invoice now p := by
  simp only [draftPayment, bind_eq_ok, check_eq_ok, pure, Except.pure, Except.ok.injEq] at h
  obtain ⟨_, valid, quote, hquote, tokenAmount, htoken, fee, hfee, usdEquivalent, -, result, hresult, -, account, -, -,
    rfl⟩ := h
  exact ⟨rfl, rfl, rfl, rfl, rfl, valid, ⟨quote, hquote, htoken⟩, hfee, ⟨result, hresult⟩, account⟩

/-- A payment starts as its draft, at present, and asks for the token of the settings. -/
theorem draft_of_drafted {fresh : FreshPayment} {invoice : NewInvoice} {now : Instant} {p : Payment}
    (h : e.draftPayment fresh invoice now = .ok p) :
    p.draft = p ∧ p.createdAt = now ∧ p.tokenCurrency = e.config.tokenCurrency := by
  simp only [draftPayment, bind_eq_ok, check_eq_ok, pure, Except.pure, Except.ok.injEq] at h
  obtain ⟨_, -, quote, -, tokenAmount, -, fee, -, usdEquivalent, -, result, -, -, -, expiresAt, -, rfl⟩ := h
  exact ⟨rfl, rfl, rfl⟩

/-- Each payment of an engine is in the next one under the same identifier, and continues there. -/
def Continues (e next : Engine) : Prop :=
  ∀ id p, e.payment? id = some p → ∃ q, next.payment? id = some q ∧ p.Continues q

theorem continues_swept (moment : Moment) (id : PaymentId) (p : Payment) : p.Continues (swept moment id p) := by
  obtain h | h := swept_cases moment id p <;> rw [h]
  · exact .refl p
  · exact p.continues_expire moment.now

theorem draft_swept (moment : Moment) (id : PaymentId) (p : Payment) : (swept moment id p).draft = p.draft :=
  (continues_swept moment id p).draft

theorem swept_completed (moment : Moment) (id : PaymentId) (p : Payment) :
    (swept moment id p).status = .completed ↔ p.status = .completed := by
  obtain h | h := swept_cases moment id p <;> rw [h]
  exact Payment.expire_completed moment.now

theorem storePayment_continues {id : PaymentId} {p q : Payment} (stored : e.payment? id = some p)
    (h : p.Continues q) : e.Continues (e.storePayment id q) := by
  intro other r hr
  rw [payment?_storePayment]
  by_cases ho : other = id
  · subst ho
    cases hr.symm.trans stored
    exact ⟨q, if_pos rfl, h⟩
  · exact ⟨r, (if_neg ho).trans hr, .refl r⟩

theorem Step.continues (h : Step e moment op next) (hfresh : op.Fresh e) : e.Continues next := by
  cases h with
  | idle | register | rate | account | profile | tier | volume | move | request | act | finish | retry =>
    exact fun _ p hp => ⟨p, hp, .refl p⟩
  | @invoice fresh invoice drafted hd unused =>
    intro id p hp
    have hid := (drafted_of_ok hd).id_eq
    have hne : id ≠ drafted.id := by
      rintro rfl
      rw [hid, show e.payment? fresh.id = none from hfresh] at hp
      cases hp
    refine ⟨p, ?_, .refl p⟩
    rw [payment?_indexPayment, payment?_storePayment, if_neg hne]
    exact hp
  | advance located stored applied => exact storePayment_continues stored (Payment.continues_applyEvent applied)
  | @complete event id p next source balance located stored applied =>
    exact storePayment_continues (e := e.storeBalance next.merchantId balance) stored
      (Payment.continues_applyEvent applied)
  | sweep =>
    intro id p hp
    refine ⟨_, ?_, continues_swept moment id p⟩
    rw [payment?_sweepExpired, hp]
    rfl
  | @lapse _ id p read stored => exact storePayment_continues stored (p.continues_expire moment.now)

theorem Step.payment_persists (h : Step e moment op next) (hfresh : op.Fresh e) {id : PaymentId} {p : Payment}
    (hp : e.payment? id = some p) : ∃ q, next.payment? id = some q ∧ q.draft = p.draft := by
  obtain ⟨q, hq, hcontinues⟩ := h.continues hfresh id p hp
  exact ⟨q, hq, hcontinues.draft⟩

theorem Step.completed_persists (h : Step e moment op next) (hfresh : op.Fresh e) {id : PaymentId} {p : Payment}
    (hp : e.payment? id = some p) (hc : p.status = .completed) : next.payment? id = some p := by
  obtain ⟨q, hq, hcontinues⟩ := h.continues hfresh id p hp
  rw [hq, hcontinues.ended (by rw [hc]; rfl)]

theorem storePayout_persists {id other : PayoutId} {p q r : Payout} (stored : e.payout? id = some p)
    (same : q.draft = p.draft) (hr : e.payout? other = some r) :
    ∃ r', (e.storePayout id q).payout? other = some r' ∧ r'.draft = r.draft := by
  rw [payout?_storePayout]
  by_cases h : other = id
  · subst h
    cases hr.symm.trans stored
    exact ⟨q, if_pos rfl, same⟩
  · exact ⟨r, (if_neg h).trans hr, rfl⟩

theorem payout?_storePayout_of_fresh {fresh other : PayoutId} {p q : Payout} (hfresh : e.payout? fresh = none)
    (hp : e.payout? other = some p) : (e.storePayout fresh q).payout? other = some p := by
  have hne : other ≠ fresh := by
    rintro rfl
    cases hp.symm.trans hfresh
  rw [payout?_storePayout, if_neg hne]
  exact hp

theorem Step.payout_persists (h : Step e moment op next) (hfresh : op.Fresh e) {id : PayoutId} {p : Payout}
    (hp : e.payout? id = some p) : ∃ q, next.payout? id = some q ∧ q.draft = p.draft := by
  cases h with
  | idle | register | rate | account | profile | tier | volume | move | invoice | advance | complete | sweep | lapse =>
    exact ⟨p, hp, rfl⟩
  | @request fresh request fee balance valid reserved =>
    refine ⟨p, ?_, rfl⟩
    exact payout?_storePayout_of_fresh (e := e.storeBalance request.merchantId balance) hfresh hp
  | act stored acted =>
    obtain ⟨-, hdraft, -⟩ := Payout.act_applied acted
    exact storePayout_persists stored hdraft hp
  | @finish _ _ _ q q' _ _ _ balance stored acted =>
    obtain ⟨-, hdraft, -⟩ := Payout.act_applied acted
    exact storePayout_persists (e := e.storeBalance q'.merchantId balance) stored hdraft hp
  | @retry other fresh actor failed fee balance stored =>
    -- the retry is stored first, so the link replaces the record of the failed payout in that state
    have hother := payout?_storePayout_of_fresh (e := e.storeBalance failed.merchantId balance) hfresh stored
      (q := failed.retried fresh actor fee moment.now)
    have hkept := payout?_storePayout_of_fresh (e := e.storeBalance failed.merchantId balance) hfresh hp
      (q := failed.retried fresh actor fee moment.now)
    exact storePayout_persists hother (q := failed.linked fresh moment.now) rfl hkept

end Engine
end Settlement
