import Settlement.Proofs.Engine.Confinement
import Settlement.Proofs.Engine.Retries

/-! Merchants do not interfere. An operation that is addressed to a merchant is confined to the slice of
that merchant, and leaves every other slice as it is. -/
namespace Settlement
namespace Engine

open Engine.Action PayoutBook

variable {holder : PaymentReference → Option MerchantId} {mine other : MerchantId} {e next : Engine} {moment : Moment}
  {op : Operation}

/-- The merchant of the payment that a reference leads to. -/
def payee? (e : Engine) (reference : PaymentReference) : Option MerchantId :=
  (e.payments.references.get? reference).bind fun id => (e.payment? id).map (·.merchantId)

/-- The merchant that an operation is addressed to, by name or as the owner of a record. A change of a rate and a sweep
are addressed to no one, and neither is an operation on a record that does not exist. -/
def Operation.addressee? (e : Engine) : Operation → Option MerchantId
  | registerMerchant merchant _ | moveMoney merchant _ | openAccount merchant | registerProfile merchant _
  | setTier merchant _ | evaluate merchant _ _ _ | recordVolume merchant _ | remaining merchant
  | payoutsFor merchant _ => some merchant
  | createInvoice _ invoice => some invoice.merchantId
  | requestPayout _ request => some request.merchantId
  | handleEvent event => e.payee? event.reference
  | findPayment reference => e.payee? reference
  | readPayment id => (e.payment? id).map (·.merchantId)
  | actOnPayout id _ _ | resubmit id _ _ | readPayout id => (e.payout? id).map (·.merchantId)
  | setRate _ _ | sweepExpired | runEvents _ => none

/-- The reference that an invoice uses, and the merchant that it is written for. -/
def Operation.uses? : Operation → Option (PaymentReference × MerchantId)
  | createInvoice fresh invoice => some (invoice.reference.getD fresh.reference, invoice.merchantId)
  | _ => none

/-- The operation is a single step, hands out fresh identifiers and uses references of their holders. -/
structure Operation.Apart (holder : PaymentReference → Option MerchantId) (e : Engine) (op : Operation) : Prop where
  single : op.Single
  fresh : op.Fresh e
  uses : ∀ reference merchant, op.uses? = some (reference, merchant) → holder reference = some merchant

/-- References belong to the merchants of their payments, and retries to the merchants of what they repeat. -/
structure Apart (holder : PaymentReference → Option MerchantId) (e : Engine) : Prop where
  holds : ∀ id p, e.payment? id = some p → holder p.reference = some p.merchantId
  leads : ∀ reference id, e.payments.references.get? reference = some id →
    ∃ p, e.payment? id = some p ∧ p.reference = reference
  linked : Linked e.config e.payout?

theorem apart_opened (config : SettlementConfig) : (opened config).Apart holder :=
  ⟨fun _ _ => nofun, fun _ _ => nofun, linked_empty config⟩

theorem Operation.Fresh.payout (h : op.Fresh e) : op.FreshPayout e := by
  cases op <;> first | exact h | trivial

theorem Step.reference_origin (h : Step e moment op next) {reference : PaymentReference} {id : PaymentId}
    (hr : next.payments.references.get? reference = some id) :
    e.payments.references.get? reference = some id ∨ ∃ p, next.payment? id = some p ∧ p.reference = reference := by
  cases h with
  | @invoice fresh invoice p drafted unused =>
    by_cases href : reference = p.reference
    · subst href
      cases (e.payments.references.get?_insert_self p.reference p.id).symm.trans hr
      exact .inr ⟨p, by rw [payment?_indexPayment, payment?_storePayment, if_pos rfl], rfl⟩
    · exact .inl ((e.payments.references.get?_insert_of_ne href p.id).symm.trans hr)
  | _ => exact .inl hr

theorem Apart.step (he : e.Apart holder) (h : Step e moment op next) (hop : op.Apart holder e) : next.Apart holder where
  holds id q hq := by
    obtain ⟨p, hp, hdraft⟩ | ⟨fresh, invoice, hdrafted, -, -, rfl⟩ := h.payment_origin hq
    · have hreference : q.draft.reference = p.draft.reference := congrArg Payment.reference hdraft
      rw [show q.reference = p.reference from hreference, Payment.merchantId_eq_of_draft hdraft]
      exact he.holds id p hp
    · have hp := drafted_of_ok hdrafted
      rw [hp.reference_eq, hp.merchantId_eq]
      exact hop.uses _ _ rfl
  leads reference id hr := by
    obtain hbefore | hnew := h.reference_origin hr
    · obtain ⟨p, hp, rfl⟩ := he.leads reference id hbefore
      obtain ⟨q, hq, hdraft⟩ := h.payment_persists hop.fresh hp
      have hreference : q.draft.reference = p.draft.reference := congrArg Payment.reference hdraft
      exact ⟨q, hq, hreference⟩
    · exact hnew
  linked := by
    rw [h.config_eq]
    exact he.linked.step (h.payoutStep hop.fresh.payout)

/-! ## Operations for the merchant, and for no one -/

theorem Apart.of_payee (he : e.Apart holder) {reference : PaymentReference} (h : e.payee? reference = some mine) :
    ∃ id p, e.payments.references.get? reference = some id ∧ holder reference = some mine ∧
      e.payment? id = some p ∧ p.merchantId = mine := by
  obtain ⟨id, hid, h⟩ := Option.bind_eq_some_iff.mp h
  obtain ⟨p, hp, rfl⟩ := Option.map_eq_some_iff.mp h
  obtain ⟨q, hq, rfl⟩ := he.leads reference id hid
  cases hp.symm.trans hq
  exact ⟨id, p, hid, he.holds id p hp, hp, rfl⟩

theorem Apart.of_no_payee (he : e.Apart holder) {reference : PaymentReference} (h : e.payee? reference = none) :
    e.payments.references.get? reference = none := by
  cases hid : e.payments.references.get? reference with
  | none => rfl
  | some id =>
    obtain ⟨p, hp, -⟩ := he.leads reference id hid
    simp [payee?, hid, hp] at h

theorem Apart.of_linked (he : e.Apart holder) {id retry : PayoutId} {p : Payout} (stored : e.payout? id = some p)
    (link : p.resubmittedAs = some retry) : ∃ q, e.payout? retry = some q ∧ q.merchantId = p.merchantId := by
  obtain ⟨q, hq, hretry⟩ := he.linked.resubmitted id p retry stored link
  obtain ⟨p', hp', -, -, hterms, -⟩ := he.linked.retried retry q id hq hretry
  cases stored.symm.trans hp'
  exact ⟨q, hq, congrArg PayoutTerms.merchantId hterms⟩

/-- An operation that is addressed to a merchant is confined to the slice of the merchant. The opening of an account is
left out here, as it answers with the number of all balances. -/
theorem Apart.confined_of_mine (he : e.Apart holder) (hop : op.Apart holder e) (h : op.addressee? e = some mine)
    (hopen : ∀ merchant, op ≠ .openAccount merchant) : (op.action moment).Confined (slice holder mine) e := by
  cases op with
  | setRate | sweepExpired | runEvents => cases h
  | openAccount merchant => exact absurd rfl (hopen merchant)
  | registerMerchant merchant tier =>
    cases h
    exact confined_modify_bind (slice_registerMerchant tier moment.now) (confined_pure _)
  | registerProfile merchant tier =>
    cases h
    refine confined_modify_bind ?_ (confined_pure _)
    rw [slice, slice, ComplianceGate.part_register]
  | setTier merchant tier =>
    cases h
    exact (setTier_confined tier).bind fun _ _ _ => confined_pure _
  | recordVolume merchant amount =>
    cases h
    exact (recordVolume_confined amount moment.now).bind fun _ _ _ => confined_pure _
  | evaluate merchant amount usdEquivalent payer =>
    cases h
    refine confined_get_bind ?_ (confined_lift_bind fun _ _ => confined_pure _)
    rw [slice, ComplianceGate.evaluate_part]
  | remaining merchant =>
    cases h
    refine confined_get_bind ?_ (confined_lift_bind fun _ _ => confined_pure _)
    rw [slice, ComplianceGate.remaining_part]
  | moveMoney merchant op =>
    cases h
    exact (moveMoney_confined op).map _
  | createInvoice fresh invoice =>
    cases h
    exact (createInvoice_confined rfl hop.fresh (hop.uses _ _ rfl) moment.now).map _
  | handleEvent event =>
    obtain ⟨id, p, located, held, stored, hmerchant⟩ := he.of_payee h
    exact (handleEvent_confined located held stored hmerchant).map _
  | findPayment reference =>
    obtain ⟨id, p, located, held, stored, hmerchant⟩ := he.of_payee h
    exact (findPayment_confined located held stored hmerchant).map _
  | readPayment id =>
    obtain ⟨p, stored, hmerchant⟩ := Option.map_eq_some_iff.mp h
    exact (readPayment_confined stored hmerchant).map _
  | requestPayout fresh request =>
    cases h
    exact (openPayout_confined rfl hop.fresh none).map _
  | actOnPayout id actor action =>
    obtain ⟨p, stored, hmerchant⟩ := Option.map_eq_some_iff.mp h
    exact (actOnPayout_confined stored hmerchant actor action).map _
  | resubmit id fresh actor =>
    obtain ⟨p, stored, rfl⟩ := Option.map_eq_some_iff.mp h
    exact (resubmit_confined stored rfl hop.fresh (fun _ link => he.of_linked stored link) actor).map _
  | readPayout id =>
    obtain ⟨p, stored, hmerchant⟩ := Option.map_eq_some_iff.mp h
    refine confined_get_bind ?_ (confined_lift_bind fun _ _ => confined_pure _)
    rw [lockPayout_slice stored hmerchant]
  | payoutsFor merchant rank =>
    cases h
    refine confined_get_bind ?_ (confined_pure _)
    rw [payoutsFor_slice]

/-- An operation that is addressed to no one changes what all merchants share, or fails. A sweep is left out here, as
it answers with the payments of all merchants. -/
theorem Apart.confined_of_none (he : e.Apart holder) (single : op.Single) (h : op.addressee? e = none)
    (hsweep : op ≠ .sweepExpired) : (op.action moment).Confined (slice holder mine) e := by
  have hpayment {id : PaymentId} (h : (e.payment? id).map (·.merchantId) = none) (held : List PaymentId) :
      e.lockPayment held id = .error (.refused .paymentNotFound) ∧
        (slice holder mine e).lockPayment held id = .error (.refused .paymentNotFound) := by
    have hnone := Option.map_eq_none_iff.mp h
    exact ⟨lockPayment_of_missing hnone held, lockPayment_of_missing (by rw [payment?_slice, hnone]; rfl) held⟩
  have hpayout {id : PayoutId} (h : (e.payout? id).map (·.merchantId) = none) (held : List PayoutId) :
      e.lockPayout held id = .error (.refused .payoutNotFound) ∧
        (slice holder mine e).lockPayout held id = .error (.refused .payoutNotFound) := by
    have hnone := Option.map_eq_none_iff.mp h
    exact ⟨lockPayout_of_missing hnone held, lockPayout_of_missing (by rw [payout?_slice, hnone]; rfl) held⟩
  have hlocate {reference : PaymentReference} (h : e.payee? reference = none) :
      e.locate reference = .error (.refused .paymentNotFound) ∧
        (slice holder mine e).locate reference = .error (.refused .paymentNotFound) := by
    rw [locate, locate, reference_slice, he.of_no_payee h]
    exact ⟨rfl, rfl⟩
  cases op with
  | registerMerchant | moveMoney | openAccount | registerProfile | setTier | evaluate | recordVolume | remaining
  | payoutsFor | createInvoice | requestPayout => cases h
  | runEvents events => exact single.elim
  | sweepExpired => exact absurd rfl hsweep
  | setRate pair rate => exact confined_modify_bind rfl (confined_pure _)
  | handleEvent | findPayment =>
    obtain ⟨hwhole, hpart⟩ := hlocate h
    exact (confined_refused hwhole hpart).map _
  | readPayment =>
    obtain ⟨hwhole, hpart⟩ := hpayment h moment.held.payments
    exact (confined_refused hwhole hpart).map _
  | actOnPayout | resubmit =>
    obtain ⟨hwhole, hpart⟩ := hpayout h moment.held.payouts
    exact (confined_refused hwhole hpart).map _
  | readPayout =>
    obtain ⟨hwhole, hpart⟩ := hpayout h moment.held.payouts
    exact confined_refused hwhole hpart

/-! ## Operations for other merchants -/

theorem payee?_eq {reference : PaymentReference} {id : PaymentId} {p : Payment}
    (located : e.payments.references.get? reference = some id) (stored : e.payment? id = some p) :
    e.payee? reference = some p.merchantId := by
  simp [payee?, located, stored]

theorem Operation.Reads.addressee?_eq {id : PaymentId} {p : Payment} (h : op.Reads e id)
    (stored : e.payment? id = some p) : op.addressee? e = some p.merchantId := by
  cases op with
  | readPayment other =>
    cases h
    exact congrArg (Option.map _) stored
  | findPayment reference => exact payee?_eq h stored
  | _ => exact h.elim

theorem Step.slice_eq (h : Step e moment op next) (hop : op.Apart holder e) (haddressed : op.addressee? e = some other)
    (hne : other ≠ mine) : slice holder mine next = slice holder mine e := by
  have hopened {id : PayoutId} {q : Payout} (unused : e.payout? id = none) (h : q.merchantId ≠ mine)
      (balance : Balance) :
      slice holder mine ((e.storeBalance q.merchantId balance).storePayout id q) = slice holder mine e := by
    refine (slice_storePayout_of_ne h fun r hr => ?_).trans (slice_storeBalance_of_ne h balance)
    cases unused.symm.trans hr
  cases h with
  | idle => rfl
  | rate | sweep => cases haddressed
  | register merchant tier =>
    cases haddressed
    exact slice_registerMerchant_of_ne hne tier moment.now
  | account merchant =>
    cases haddressed
    rw [slice, slice, Ledger.part_openAccount_of_ne _ hne]
  | profile merchant tier =>
    cases haddressed
    rw [slice, slice, ComplianceGate.part_register_of_ne _ hne]
  | tier known =>
    cases haddressed
    rw [slice, slice, ComplianceGate.part_setTier_of_ne hne known]
  | volume merchant amount =>
    cases haddressed
    exact slice_countVolume_of_ne hne amount moment.now
  | move moved =>
    cases haddressed
    exact slice_storeBalance_of_ne hne _
  | @invoice fresh invoice p drafted unused =>
    cases haddressed
    have hp := drafted_of_ok drafted
    have hholder : holder p.reference = some invoice.merchantId := hp.reference_eq ▸ hop.uses _ _ rfl
    have hfresh : e.payment? p.id = none := hp.id_eq ▸ hop.fresh
    rw [slice_indexPayment_of_ne (by rw [hholder]; exact fun h => hne (Option.some.inj h))]
    exact slice_storePayment_of_ne (hp.merchantId_eq ▸ hne) fun q hq => by cases hfresh.symm.trans hq
  | advance located stored applied =>
    cases (payee?_eq located stored).symm.trans haddressed
    obtain ⟨-, hdraft, -⟩ := Payment.applyEvent_applied applied
    exact slice_replacePayment_of_ne stored hdraft hne
  | @complete event id p q source balance located stored applied =>
    cases (payee?_eq located stored).symm.trans haddressed
    obtain ⟨-, hdraft, -⟩ := Payment.applyEvent_applied applied
    rw [Payment.merchantId_eq_of_draft hdraft, slice_countVolume_of_ne hne]
    exact (slice_replacePayment_of_ne (e := e.storeBalance p.merchantId balance) stored hdraft hne).trans
      (slice_storeBalance_of_ne hne balance)
  | lapse read stored =>
    cases (read.addressee?_eq stored).symm.trans haddressed
    exact slice_replacePayment_of_ne stored (Payment.draft_expire _ moment.now) hne
  | @request fresh request fee balance valid reserved =>
    cases haddressed
    exact hopened (q := request.payout fresh fee none moment.now) hop.fresh hne balance
  | act stored acted =>
    cases (congrArg (Option.map _) stored).symm.trans haddressed
    obtain ⟨-, hdraft, -⟩ := Payout.act_applied acted
    exact slice_replacePayout_of_ne stored hdraft hne
  | @finish id actor action p q source target op balance stored acted =>
    cases (congrArg (Option.map _) stored).symm.trans haddressed
    obtain ⟨-, hdraft, -⟩ := Payout.act_applied acted
    rw [Payout.merchantId_eq_of_draft hdraft]
    exact (slice_replacePayout_of_ne (e := e.storeBalance p.merchantId balance) stored hdraft hne).trans
      (slice_storeBalance_of_ne hne balance)
  | @retry id fresh actor failed fee balance stored =>
    cases (congrArg (Option.map _) stored).symm.trans haddressed
    have hkept := payout?_storePayout_of_fresh (e := e.storeBalance failed.merchantId balance) hop.fresh stored
      (q := failed.retried fresh actor fee moment.now)
    refine (slice_replacePayout_of_ne hkept (q := failed.linked fresh moment.now) rfl hne).trans ?_
    exact hopened (q := failed.retried fresh actor fee moment.now) hop.fresh hne balance

end Engine
end Settlement
