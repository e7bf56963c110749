import Settlement.Proofs.Engine.Handling
import Settlement.Proofs.Engine.Records
import Settlement.Proofs.Engine.Slice
import Settlement.Proofs.Engine.View

/-! Computations that are confined to the slice of one merchant: whatever is done for the merchant of
a record or a balance neither reads nor writes anything of other merchants. -/
namespace Settlement
namespace Engine

open Engine.Action

variable {holder : PaymentReference → Option MerchantId} {mine : MerchantId} {e : Engine} {moment : Moment}

theorem moveMoney_confined (op : LedgerOp) : (moveMoney moment mine op).Confined (slice holder mine) e := by
  have happly : (slice holder mine e).ledger.apply moment.held.balances mine op moment.now =
      (e.ledger.apply moment.held.balances mine op moment.now).map fun moved => (moved.1.part mine, moved.2) :=
    e.ledger.apply_part moment.held.balances op moment.now
  rw [Confined]
  simp only [moveMoney, on_bind, on_get, on_lift, happly]
  cases e.ledger.apply moment.held.balances mine op moment.now with
  | error fault => rfl
  | ok moved => rfl

theorem setTier_confined (tier : KycTier) : (setTier mine tier).Confined (slice holder mine) e := by
  have htier : (slice holder mine e).gate.setTier mine tier = (e.gate.setTier mine tier).map (·.part mine) :=
    e.gate.setTier_part tier
  rw [Confined]
  simp only [setTier, on_bind, on_get, on_lift, htier]
  cases e.gate.setTier mine tier with
  | error fault => rfl
  | ok gate => rfl

theorem recordVolume_confined (amount : Decimal) (now : Instant) :
    (recordVolume mine amount now).Confined (slice holder mine) e := by
  have hresult : ((e.gate.part mine).recordVolume mine amount now).2 = (e.gate.recordVolume mine amount now).2 := by
    rw [ComplianceGate.recordVolume_part]
  rw [Confined, on_recordVolume, on_recordVolume, slice_countVolume]
  exact congrArg (_, ·) hresult

/-! ## Payments -/

section

variable {id : PaymentId} {p next : Payment}

theorem recordPayment_confined (h : p.merchantId = mine) (unused : e.payment? p.id = none)
    (held : holder p.reference = some mine) : (recordPayment p).Confined (slice holder mine) e := by
  have hold : ∀ q, e.payment? p.id = some q → q.merchantId = mine := fun q hq => by cases unused.symm.trans hq
  refine confined_get_bind (by rw [reference_slice_of_mine held]) (confined_lift_bind fun _ _ => ?_)
  exact confined_modify_bind (slice_storePayment h hold) (confined_modify (slice_indexPayment held p.id))

theorem createInvoice_confined {fresh : FreshPayment} {invoice : NewInvoice} (h : invoice.merchantId = mine)
    (unused : e.payment? fresh.id = none) (held : holder (invoice.reference.getD fresh.reference) = some mine)
    (now : Instant) : (createInvoice fresh invoice now).Confined (slice holder mine) e := by
  refine confined_get_bind (by rw [draftPayment_slice fresh h]) (confined_lift_bind fun p hp => ?_)
  have hd := drafted_of_ok hp
  have hrecord := recordPayment_confined (hd.merchantId_eq.trans h) (hd.id_eq ▸ unused) (hd.reference_eq ▸ held)
  exact hrecord.bind fun _ _ _ => confined_pure _

theorem locate_slice {reference : PaymentReference} (held : holder reference = some mine) :
    (slice holder mine e).locate reference = e.locate reference := by
  rw [locate, locate, reference_slice_of_mine held]

theorem completePayment_confined (stored : e.payment? id = some p) (same : next.draft = p.draft)
    (h : p.merchantId = mine) : (completePayment moment id next).Confined (slice holder mine) e := by
  have hnext := (Payment.merchantId_eq_of_draft same).trans h
  unfold completePayment
  rw [hnext]
  refine (moveMoney_confined _).bind fun after balance hmoved => ?_
  obtain ⟨balance, -, hon⟩ | ⟨fault, hon⟩ := e.moveMoney_cases moment mine (.credit next.netAmount)
  · cases hon.symm.trans hmoved
    have hstored : (e.storeBalance mine balance).payment? id = some p := stored
    refine confined_modify_bind (slice_replacePayment hstored same h) ?_
    exact (recordVolume_confined _ _).attempt.bind fun _ _ _ => confined_pure _
  · cases hon.symm.trans hmoved

theorem handleEvent_confined {event : ChainEvent} (located : e.payments.references.get? event.reference = some id)
    (held : holder event.reference = some mine) (stored : e.payment? id = some p) (h : p.merchantId = mine) :
    (handleEvent moment event).Confined (slice holder mine) e := by
  refine confined_get_bind (by rw [locate_slice held]) (confined_lift_bind fun id' hid => ?_)
  cases located.symm.trans (require_eq_ok.mp hid)
  refine confined_get_bind (by rw [lockPayment_slice stored h]) (confined_lift_bind fun p' hp => ?_)
  cases stored.symm.trans (lockPayment_eq_ok.mp hp).1
  refine confined_get_bind rfl (confined_lift_bind fun ⟨next, transition⟩ happlied => ?_)
  cases transition with
  | unchanged => exact confined_pure _
  | applied source target =>
    obtain ⟨-, hdraft, -⟩ := Payment.applyEvent_applied happlied
    cases target with
    | completed => exact (completePayment_confined stored hdraft h).bind fun _ _ _ => confined_pure _
    | created | pending | confirming | expired | failed =>
      exact confined_modify_bind (slice_replacePayment stored hdraft h) (confined_pure _)

theorem readPayment_confined (stored : e.payment? id = some p) (h : p.merchantId = mine) :
    (readPayment moment id).Confined (slice holder mine) e := by
  refine confined_get_bind (by rw [lockPayment_slice stored h]) (confined_lift_bind fun p' hp => ?_)
  cases stored.symm.trans (lockPayment_eq_ok.mp hp).1
  have hexpired := p.draft_expire moment.now
  generalize p.expire moment.now = moved at hexpired ⊢
  obtain ⟨expired, _ | _⟩ := moved
  · exact confined_modify_bind (slice_replacePayment stored hexpired h) (confined_pure _)
  · exact confined_pure _

theorem findPayment_confined {reference : PaymentReference}
    (located : e.payments.references.get? reference = some id) (held : holder reference = some mine)
    (stored : e.payment? id = some p) (h : p.merchantId = mine) :
    (findPayment moment reference).Confined (slice holder mine) e := by
  refine confined_get_bind (by rw [locate_slice held]) (confined_lift_bind fun id' hid => ?_)
  cases located.symm.trans (require_eq_ok.mp hid)
  exact readPayment_confined stored h

end

/-! ## Payouts -/

section

variable {id : PayoutId} {p : Payout}

theorem openPayout_confined {fresh : PayoutId} {request : PayoutRequest} (h : request.merchantId = mine)
    (unused : e.payout? fresh = none) (retry : Option Retry) :
    (openPayout moment fresh request retry).Confined (slice holder mine) e := by
  subst h
  refine confined_get_bind rfl (confined_lift_bind fun fee _ => ?_)
  refine (moveMoney_confined _).bind fun next balance hmoved => ?_
  obtain ⟨balance, -, hon⟩ | ⟨fault, hon⟩ := e.moveMoney_cases moment request.merchantId (.reserve request.amount)
  · cases hon.symm.trans hmoved
    refine confined_modify_bind (slice_storePayout rfl fun q hq => ?_) (confined_pure _)
    cases unused.symm.trans hq
  · cases hon.symm.trans hmoved

theorem moveFor_confined (h : p.merchantId = mine) (status : PayoutStatus) :
    (moveFor moment p status).Confined (slice holder mine) e := by
  subst h
  unfold moveFor
  cases movement? p status with
  | some op => exact (moveMoney_confined op).bind fun _ _ _ => confined_pure _
  | none => exact confined_pure _

theorem actOnPayout_confined (stored : e.payout? id = some p) (h : p.merchantId = mine) (actor : ActorId)
    (action : PayoutAction) : (actOnPayout moment id actor action).Confined (slice holder mine) e := by
  refine confined_get_bind (by rw [lockPayout_slice stored h]) (confined_lift_bind fun p' hp => ?_)
  cases stored.symm.trans (lockPayout_eq_ok.mp hp).1
  refine confined_lift_bind fun ⟨next, transition⟩ hacted => ?_
  cases transition with
  | unchanged => exact confined_pure _
  | applied source target =>
    obtain ⟨-, hdraft, -⟩ := Payout.act_applied hacted
    have hnext : next.merchantId = mine := (Payout.merchantId_eq_of_draft hdraft).trans h
    refine (moveFor_confined hnext target).bind fun after _ hmoved => ?_
    have hpayouts : after.payout? id = some p := by
      obtain ⟨op, balance, -, -, hon⟩ | ⟨-, hon⟩ | ⟨fault, hon⟩ := e.moveFor_cases moment next target
      all_goals
        cases hon.symm.trans hmoved
        try exact stored
    exact confined_modify_bind (slice_replacePayout hpayouts hdraft h) (confined_pure _)

theorem resubmit_confined {fresh : PayoutId} (stored : e.payout? id = some p) (h : p.merchantId = mine)
    (unused : e.payout? fresh = none) (retried : ∀ retry, p.resubmittedAs = some retry →
      ∃ q, e.payout? retry = some q ∧ q.merchantId = mine) (actor : ActorId) :
    (resubmit moment id fresh actor).Confined (slice holder mine) e := by
  refine confined_get_bind (by rw [lockPayout_slice stored h]) (confined_lift_bind fun p' hp => ?_)
  cases stored.symm.trans (lockPayout_eq_ok.mp hp).1
  refine confined_lift_bind fun _ _ => ?_
  cases hlink : p.resubmittedAs with
  | some retry =>
    obtain ⟨q, hq, hmine⟩ := retried retry hlink
    exact confined_get_bind (by rw [lockPayout_slice hq hmine]) (confined_lift _)
  | none =>
    have hopen : Confined (slice holder mine) e
        (openPayout moment fresh (.again p actor) (some ⟨p.id, p.retryCount⟩)) := openPayout_confined h unused _
    refine hopen.bind fun after retry hretry => ?_
    obtain ⟨fee, balance, -, -, hon⟩ | ⟨fault, hon⟩ :=
      e.openPayout_cases moment fresh (.again p actor) (some ⟨p.id, p.retryCount⟩)
    · cases hon.symm.trans hretry
      have hkept := payout?_storePayout_of_fresh (e := e.storeBalance p.merchantId balance) unused stored
        (q := p.retried fresh actor fee moment.now)
      exact confined_modify_bind (slice_replacePayout hkept rfl h) (confined_pure _)
    · cases hon.symm.trans hretry

end

end Engine
end Settlement
