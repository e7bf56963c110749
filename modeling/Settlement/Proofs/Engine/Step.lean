import Settlement.Proofs.Engine.Stores

/-! What one operation can write. A series of events takes one step for each event;
any other operation is a single step. -/
namespace Settlement

theorem Ledger.apply_eq_ok {l next : Ledger} {held : List MerchantId} {merchant : MerchantId} {op : LedgerOp}
    {now : Instant} {balance : Balance} :
    l.apply held merchant op now = .ok (next, balance) ↔
      ∃ row, l.balance? merchant = some row ∧ merchant ∉ held ∧ row.apply op now = .ok balance ∧
        ⟨l.balances.insert merchant balance⟩ = next := by
  simp only [apply, bind_eq_ok, require_eq_ok, check_eq_ok, pure, Except.pure, Except.ok.injEq, Prod.mk.injEq]
  constructor
  · rintro ⟨row, hrow, _, hheld, balance, happly, rfl, rfl⟩
    exact ⟨row, hrow, hheld, happly, rfl⟩
  · rintro ⟨row, hrow, hheld, happly, rfl⟩
    exact ⟨row, hrow, (), hheld, balance, happly, rfl, rfl⟩

def Payout.retried (failed : Payout) (fresh : PayoutId) (actor : ActorId) (fee : Exchange.FeeBreakdown)
    (now : Instant) : Payout :=
  (PayoutRequest.again failed actor).payout fresh fee (some ⟨failed.id, failed.retryCount⟩) now

namespace Engine

open Engine.Action

/-- Money can be moved within the balance of a merchant, and leads to the row `balance`. -/
def Moves (e : Engine) (moment : Moment) (merchant : MerchantId) (op : LedgerOp) (balance : Balance) : Prop :=
  ∃ row, e.balance? merchant = some row ∧ merchant ∉ moment.held.balances ∧ row.apply op moment.now = .ok balance

/-- The operation is a single step. -/
def Operation.Single : Operation → Prop
  | runEvents _ => False
  | _ => True

/-- The operation does not move money by itself. -/
def Operation.Indirect : Operation → Prop
  | moveMoney _ _ => False
  | _ => True

/-- The identifiers that the operation hands out are not in use, as is the case for random ones. -/
def Operation.Fresh (e : Engine) : Operation → Prop
  | createInvoice fresh _ => e.payment? fresh.id = none
  | requestPayout fresh _ | resubmit _ fresh _ => e.payout? fresh = none
  | _ => True

def Operation.Reads (e : Engine) (id : PaymentId) : Operation → Prop
  | readPayment i => i = id
  | findPayment reference => e.payments.references.get? reference = some id
  | _ => False

/-- What an operation that is a single step can write, and under which conditions it does. -/
inductive Step (e : Engine) (moment : Moment) : Operation → Engine → Prop
  | idle (op : Operation) : Step e moment op e
  | register (merchant : MerchantId) (tier : KycTier) :
    Step e moment (.registerMerchant merchant tier) (e.registerMerchant merchant tier moment.now)
  | rate (pair : Exchange.CurrencyPair) (rate : Decimal) :
    Step e moment (.setRate pair rate) (e.setRate pair rate moment.now)
  | account (merchant : MerchantId) :
    Step e moment (.openAccount merchant) { e with ledger := e.ledger.openAccount merchant moment.now }
  | profile (merchant : MerchantId) (tier : KycTier) :
    Step e moment (.registerProfile merchant tier) { e with gate := e.gate.register merchant tier moment.now }
  | tier {merchant : MerchantId} {tier : KycTier} {gate : ComplianceGate}
    (known : e.gate.setTier merchant tier = .ok gate) :
    Step e moment (.setTier merchant tier) { e with gate }
  | volume (merchant : MerchantId) (amount : Decimal) :
    Step e moment (.recordVolume merchant amount) (e.countVolume merchant amount moment.now)
  | invoice {fresh : FreshPayment} {invoice : NewInvoice} {p : Payment}
    (drafted : e.draftPayment fresh invoice moment.now = .ok p)
    (unused : e.payments.references.get? p.reference = none) :
    Step e moment (.createInvoice fresh invoice) ((e.storePayment p.id p).indexPayment p.reference p.id)
  | advance {event : ChainEvent} {id : PaymentId} {p next : Payment} {source target : PaymentStatus}
    (located : e.payments.references.get? event.reference = some id) (stored : e.payment? id = some p)
    (applied : p.applyEvent e.policy event moment.now = .ok (next, .applied source target))
    (short : target ≠ .completed) (free : id ∉ moment.held.payments) :
    Step e moment (.handleEvent event) (e.storePayment id next)
  | complete {event : ChainEvent} {id : PaymentId} {p next : Payment} {source : PaymentStatus} {balance : Balance}
    (located : e.payments.references.get? event.reference = some id) (stored : e.payment? id = some p)
    (applied : p.applyEvent e.policy event moment.now = .ok (next, .applied source .completed))
    (credited : e.Moves moment next.merchantId (.credit next.netAmount) balance)
    (free : id ∉ moment.held.payments) :
    Step e moment (.handleEvent event)
      (((e.storeBalance next.merchantId balance).storePayment id next).countVolume next.merchantId
        next.invoiceAmount moment.now)
  | sweep : Step e moment .sweepExpired (e.sweepExpired moment).1
  | lapse {op : Operation} {id : PaymentId} {p : Payment} (read : op.Reads e id)
    (stored : e.payment? id = some p) (overdue : p.isOverdue moment.now = true)
    (free : id ∉ moment.held.payments) :
    Step e moment op (e.storePayment id (p.expire moment.now).1)
  | move {merchant : MerchantId} {op : LedgerOp} {balance : Balance} (moved : e.Moves moment merchant op balance) :
    Step e moment (.moveMoney merchant op) (e.storeBalance merchant balance)
  | request {fresh : PayoutId} {request : PayoutRequest} {fee : Exchange.FeeBreakdown} {balance : Balance}
    (valid : request.validate e.config = .ok fee)
    (reserved : e.Moves moment request.merchantId (.reserve request.amount) balance) :
    Step e moment (.requestPayout fresh request)
      ((e.storeBalance request.merchantId balance).storePayout fresh (request.payout fresh fee none moment.now))
  | act {id : PayoutId} {actor : ActorId} {action : PayoutAction} {p next : Payout} {source target : PayoutStatus}
    (stored : e.payout? id = some p)
    (acted : p.act actor moment.now action = .ok (next, .applied source target))
    (still : movement? next target = none) (free : id ∉ moment.held.payouts) :
    Step e moment (.actOnPayout id actor action) (e.storePayout id next)
  | finish {id : PayoutId} {actor : ActorId} {action : PayoutAction} {p next : Payout}
    {source target : PayoutStatus} {op : LedgerOp} {balance : Balance} (stored : e.payout? id = some p)
    (acted : p.act actor moment.now action = .ok (next, .applied source target))
    (moves : movement? next target = some op) (moved : e.Moves moment next.merchantId op balance)
    (free : id ∉ moment.held.payouts) :
    Step e moment (.actOnPayout id actor action) ((e.storeBalance next.merchantId balance).storePayout id next)
  | retry {id fresh : PayoutId} {actor : ActorId} {failed : Payout} {fee : Exchange.FeeBreakdown}
    {balance : Balance} (stored : e.payout? id = some failed) (status : failed.status = .failed)
    (first : failed.resubmittedAs = none) (valid : (PayoutRequest.again failed actor).validate e.config = .ok fee)
    (reserved : e.Moves moment failed.merchantId (.reserve failed.amount) balance)
    (free : id ∉ moment.held.payouts) :
    Step e moment (.resubmit id fresh actor)
      (((e.storeBalance failed.merchantId balance).storePayout fresh
        (failed.retried fresh actor fee moment.now)).storePayout id (failed.linked fresh moment.now))

theorem moveMoney_cases (e : Engine) (moment : Moment) (merchant : MerchantId) (op : LedgerOp) :
    (∃ balance, e.Moves moment merchant op balance ∧
      (moveMoney moment merchant op).on e = (e.storeBalance merchant balance, .ok balance)) ∨
    ∃ fault, (moveMoney moment merchant op).on e = (e, .error fault) := by
  cases h : e.ledger.apply moment.held.balances merchant op moment.now with
  | error fault =>
    right
    exact ⟨fault, by simp only [moveMoney, on_bind, on_get, on_lift, h]⟩
  | ok moved =>
    left
    obtain ⟨ledger, balance⟩ := moved
    obtain ⟨row, hrow, hheld, happly, rfl⟩ := Ledger.apply_eq_ok.mp h
    refine ⟨balance, ⟨row, hrow, hheld, happly⟩, ?_⟩
    simp only [moveMoney, on_bind, on_get, on_lift, h, on_modify, on_pure]
    rfl

theorem createInvoice_step (e : Engine) (moment : Moment) (fresh : FreshPayment) (invoice : NewInvoice) :
    Step e moment (.createInvoice fresh invoice) (e.perform moment (.createInvoice fresh invoice)).1 := by
  simp only [perform, Operation.action, on_map, Engine.createInvoice, recordPayment, on_bind, on_get, on_lift]
  cases hd : e.draftPayment fresh invoice moment.now with
  | error fault => exact .idle _
  | ok p =>
    cases hu : e.payments.references.get? p.reference with
    | some id =>
      simp only [hu, check_of_not (by simp : ¬ (some id).isNone = true)]
      exact .idle _
    | none =>
      simp only [hu, check_of (by simp : (none : Option PaymentId).isNone = true), on_modify, on_pure]
      exact .invoice hd hu

theorem on_recordVolume (e : Engine) (merchant : MerchantId) (amount : Decimal) (now : Instant) :
    (recordVolume merchant amount now).on e =
      (e.countVolume merchant amount now, (e.gate.recordVolume merchant amount now).2) := rfl

/-- Completing a payment either credits, stores and counts it, or it fails and writes nothing. -/
theorem completePayment_cases (e : Engine) (moment : Moment) (id : PaymentId) (p : Payment) :
    (∃ balance, e.Moves moment p.merchantId (.credit p.netAmount) balance ∧
      ((completePayment moment id p).on e).1 =
        ((e.storeBalance p.merchantId balance).storePayment id p).countVolume p.merchantId p.invoiceAmount
          moment.now) ∨
    ∃ fault, (completePayment moment id p).on e = (e, .error fault) := by
  obtain ⟨balance, hm, ho⟩ | ⟨fault, ho⟩ := e.moveMoney_cases moment p.merchantId (.credit p.netAmount)
  · left
    refine ⟨balance, hm, ?_⟩
    simp only [completePayment, on_bind, ho, on_modify, on_attempt, on_recordVolume]
    generalize (ComplianceGate.recordVolume _ _ _ _).2 = result
    rcases result with (error | _) | _ <;> rfl
  · right
    exact ⟨fault, by simp only [completePayment, on_bind, ho]⟩

theorem handleEvent_step (e : Engine) (moment : Moment) (event : ChainEvent) :
    Step e moment (.handleEvent event) (e.perform moment (.handleEvent event)).1 := by
  simp only [perform, Operation.action, on_map, Engine.handleEvent, on_bind, on_get, on_lift, locate]
  cases hr : e.payments.references.get? event.reference with
  | none => exact .idle _
  | some id =>
    simp only [require_some]
    cases hp : e.lockPayment moment.held.payments id with
    | error fault => exact .idle _
    | ok p =>
      simp only
      obtain ⟨hp, hfree⟩ := lockPayment_eq_ok.mp hp
      cases ha : p.applyEvent e.policy event moment.now with
      | error fault => exact .idle _
      | ok moved =>
        obtain ⟨next, transition⟩ := moved
        cases transition with
        | unchanged status => exact .idle _
        | applied source target =>
          cases target with
          | completed =>
            obtain ⟨balance, hm, ho⟩ | ⟨fault, ho⟩ := e.completePayment_cases moment id next
            · have hend : ((do
                  completePayment moment id next
                  return PaymentTransition.applied source .completed : Action PaymentTransition).on e).1 =
                  ((completePayment moment id next).on e).1 := by
                rw [on_bind]
                rcases (completePayment moment id next).on e with ⟨_, _ | _⟩ <;> rfl
              simp only
              rw [hend, ho]
              exact .complete hr hp ha hm hfree
            · simp only [on_bind, ho]
              exact .idle _
          | created | pending | confirming | expired | failed =>
            exact .advance hr hp ha (by decide) hfree

/-- Opening a payout either reserves its amount and stores it, or it fails and writes nothing. -/
theorem openPayout_cases (e : Engine) (moment : Moment) (id : PayoutId) (request : PayoutRequest)
    (retry : Option Retry) :
    (∃ fee balance, request.validate e.config = .ok fee ∧
      e.Moves moment request.merchantId (.reserve request.amount) balance ∧
      (openPayout moment id request retry).on e =
        ((e.storeBalance request.merchantId balance).storePayout id (request.payout id fee retry moment.now),
          .ok (request.payout id fee retry moment.now))) ∨
    ∃ fault, (openPayout moment id request retry).on e = (e, .error fault) := by
  cases hv : request.validate e.config with
  | error fault =>
    right
    exact ⟨fault, by simp only [openPayout, on_bind, on_get, on_lift, hv]⟩
  | ok fee =>
    obtain ⟨balance, hm, ho⟩ | ⟨fault, ho⟩ :=
      e.moveMoney_cases moment request.merchantId (.reserve request.amount)
    · left
      refine ⟨fee, balance, rfl, hm, ?_⟩
      simp only [openPayout, on_bind, on_get, on_lift, hv, ho, on_modify, on_pure]
    · right
      exact ⟨fault, by simp only [openPayout, on_bind, on_get, on_lift, hv, ho]⟩

theorem requestPayout_step (e : Engine) (moment : Moment) (fresh : PayoutId) (request : PayoutRequest) :
    Step e moment (.requestPayout fresh request) (e.perform moment (.requestPayout fresh request)).1 := by
  simp only [perform, Operation.action, on_map, Engine.requestPayout]
  obtain ⟨fee, balance, hv, hm, ho⟩ | ⟨fault, ho⟩ := e.openPayout_cases moment fresh request none
  · rw [ho]
    exact .request hv hm
  · rw [ho]
    exact .idle _

theorem moveFor_cases (e : Engine) (moment : Moment) (p : Payout) (status : PayoutStatus) :
    (∃ op balance, movement? p status = some op ∧ e.Moves moment p.merchantId op balance ∧
      (moveFor moment p status).on e = (e.storeBalance p.merchantId balance, .ok ())) ∨
    (movement? p status = none ∧ (moveFor moment p status).on e = (e, .ok ())) ∨
    ∃ fault, (moveFor moment p status).on e = (e, .error fault) := by
  unfold moveFor
  cases movement? p status with
  | none => exact .inr (.inl ⟨rfl, rfl⟩)
  | some op =>
    obtain ⟨balance, hm, ho⟩ | ⟨fault, ho⟩ := e.moveMoney_cases moment p.merchantId op
    · exact .inl ⟨op, balance, rfl, hm, by simp only [on_bind, ho, on_pure]⟩
    · exact .inr (.inr ⟨fault, by simp only [on_bind, ho]⟩)

theorem actOnPayout_step (e : Engine) (moment : Moment) (id : PayoutId) (actor : ActorId)
    (action : PayoutAction) :
    Step e moment (.actOnPayout id actor action) (e.perform moment (.actOnPayout id actor action)).1 := by
  simp only [perform, Operation.action, on_map, Engine.actOnPayout, on_bind, on_get, on_lift]
  cases hp : e.lockPayout moment.held.payouts id with
  | error fault => exact .idle _
  | ok p =>
    simp only
    obtain ⟨hp, hfree⟩ := lockPayout_eq_ok.mp hp
    cases ha : p.act actor moment.now action with
    | error fault => exact .idle _
    | ok moved =>
      obtain ⟨next, transition⟩ := moved
      cases transition with
      | unchanged status => exact .idle _
      | applied source target =>
        obtain ⟨op, balance, hop, hm, ho⟩ | ⟨hop, ho⟩ | ⟨fault, ho⟩ := e.moveFor_cases moment next target
        · simp only [on_bind, ho, on_modify, on_pure]
          exact .finish hp ha hop hm hfree
        · simp only [on_bind, ho, on_modify, on_pure]
          exact .act hp ha hop hfree
        · simp only [on_bind, ho]
          exact .idle _

theorem resubmit_step (e : Engine) (moment : Moment) (id fresh : PayoutId) (actor : ActorId) :
    Step e moment (.resubmit id fresh actor) (e.perform moment (.resubmit id fresh actor)).1 := by
  simp only [perform, Operation.action, on_map, Engine.resubmit, on_bind, on_get, on_lift]
  cases hp : e.lockPayout moment.held.payouts id with
  | error fault => exact .idle _
  | ok failed =>
    simp only
    obtain ⟨hp, hfree⟩ := lockPayout_eq_ok.mp hp
    by_cases hs : failed.status = .failed
    · rw [check_of hs]
      cases hr : failed.resubmittedAs with
      | some retryId => exact .idle _
      | none =>
        obtain ⟨fee, balance, hv, hm, ho⟩ | ⟨fault, ho⟩ :=
          e.openPayout_cases moment fresh (.again failed actor) (some ⟨failed.id, failed.retryCount⟩)
        · simp only [on_bind, ho, on_modify, on_pure]
          exact .retry hp hs hr hv hm hfree
        · simp only [on_bind, ho]
          exact .idle _
    · rw [check_of_not hs]
      exact .idle _

theorem readPayment_cases (e : Engine) (moment : Moment) (id : PaymentId) :
    (∃ p, e.payment? id = some p ∧ p.isOverdue moment.now = true ∧ id ∉ moment.held.payments ∧
      ((readPayment moment id).on e).1 = e.storePayment id (p.expire moment.now).1) ∨
    ((readPayment moment id).on e).1 = e := by
  simp only [readPayment, on_bind, on_get, on_lift]
  cases hp : e.lockPayment moment.held.payments id with
  | error fault => exact .inr rfl
  | ok p =>
    by_cases ho : p.isOverdue moment.now = true
    · left
      obtain ⟨hp, hfree⟩ := lockPayment_eq_ok.mp hp
      refine ⟨p, hp, ho, hfree, ?_⟩
      simp only [Payment.expire, if_pos ho, Payment.move]
      rfl
    · right
      simp only [Payment.expire, if_neg ho]
      rfl

theorem readPayment_step (e : Engine) (moment : Moment) (id : PaymentId) :
    Step e moment (.readPayment id) (e.perform moment (.readPayment id)).1 := by
  simp only [perform, Operation.action, on_map]
  obtain ⟨p, hp, ho, hfree, hn⟩ | hn := e.readPayment_cases moment id
  · rw [hn]
    exact .lapse rfl hp ho hfree
  · rw [hn]
    exact .idle _

theorem findPayment_step (e : Engine) (moment : Moment) (reference : PaymentReference) :
    Step e moment (.findPayment reference) (e.perform moment (.findPayment reference)).1 := by
  simp only [perform, Operation.action, on_map, Engine.findPayment, on_bind, on_get, on_lift, locate]
  cases hr : e.payments.references.get? reference with
  | none => exact .idle _
  | some id =>
    simp only [require_some]
    obtain ⟨p, hp, ho, hfree, hn⟩ | hn := e.readPayment_cases moment id
    · rw [hn]
      exact .lapse hr hp ho hfree
    · rw [hn]
      exact .idle _

theorem moveMoney_step (e : Engine) (moment : Moment) (merchant : MerchantId) (op : LedgerOp) :
    Step e moment (.moveMoney merchant op) (e.perform moment (.moveMoney merchant op)).1 := by
  simp only [perform, Operation.action, on_map]
  obtain ⟨balance, hm, ho⟩ | ⟨fault, ho⟩ := e.moveMoney_cases moment merchant op
  · rw [ho]
    exact .move hm
  · rw [ho]
    exact .idle _

theorem setTier_step (e : Engine) (moment : Moment) (merchant : MerchantId) (tier : KycTier) :
    Step e moment (.setTier merchant tier) (e.perform moment (.setTier merchant tier)).1 := by
  simp only [perform, Operation.action, Engine.setTier, on_bind, on_get, on_lift]
  cases hg : e.gate.setTier merchant tier with
  | error fault => exact .idle _
  | ok gate => exact .tier hg

theorem recordVolume_step (e : Engine) (moment : Moment) (merchant : MerchantId) (amount : Decimal) :
    Step e moment (.recordVolume merchant amount) (e.perform moment (.recordVolume merchant amount)).1 := by
  have hn : (e.perform moment (.recordVolume merchant amount)).1 = e.countVolume merchant amount moment.now := by
    simp only [perform, Operation.action, on_bind, on_recordVolume]
    cases (e.gate.recordVolume merchant amount moment.now).2 <;> rfl
  rw [hn]
  exact .volume merchant amount

theorem perform_step (e : Engine) (moment : Moment) (op : Operation) (single : op.Single) :
    Step e moment op (e.perform moment op).1 := by
  cases op with
  | registerMerchant merchant tier => exact .register merchant tier
  | setRate pair rate => exact .rate pair rate
  | createInvoice fresh invoice => exact e.createInvoice_step moment fresh invoice
  | handleEvent event => exact e.handleEvent_step moment event
  | runEvents events => exact single.elim
  | sweepExpired => exact .sweep
  | readPayment id => exact e.readPayment_step moment id
  | findPayment reference => exact e.findPayment_step moment reference
  | requestPayout fresh request => exact e.requestPayout_step moment fresh request
  | actOnPayout id actor action => exact e.actOnPayout_step moment id actor action
  | resubmit id fresh actor => exact e.resubmit_step moment id fresh actor
  | readPayout id =>
    simp only [perform, Operation.action, on_bind, on_get, on_lift]
    cases e.lockPayout moment.held.payouts id <;> exact .idle _
  | payoutsFor merchant rank => exact .idle _
  | moveMoney merchant op => exact e.moveMoney_step moment merchant op
  | openAccount merchant => exact .account merchant
  | registerProfile merchant tier => exact .profile merchant tier
  | setTier merchant tier => exact e.setTier_step moment merchant tier
  | evaluate merchant amount usdEquivalent payer =>
    simp only [perform, Operation.action, on_bind, on_get, on_lift]
    cases e.gate.evaluate merchant amount usdEquivalent payer moment.now <;> exact .idle _
  | recordVolume merchant amount => exact e.recordVolume_step moment merchant amount
  | remaining merchant =>
    simp only [perform, Operation.action, on_bind, on_get, on_lift]
    cases e.gate.remaining merchant moment.now <;> exact .idle _

end Engine
end Settlement
