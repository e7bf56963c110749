import Settlement.Proofs.Engine.Step
import Settlement.Proofs.Payment.Life

/-! What the handling of an event comes to, once its payment has been found and it is known
what the event makes of it. -/
namespace Settlement
namespace Engine

open Engine.Action

variable {e : Engine} {moment : Moment} {event : ChainEvent} {id : PaymentId} {p next : Payment}
  {source target : PaymentStatus} {row balance : Balance}

theorem on_moveMoney {merchant : MerchantId} {op : LedgerOp} (hrow : e.balance? merchant = some row)
    (free : merchant ∉ moment.held.balances) :
    (moveMoney moment merchant op).on e =
      match row.apply op moment.now with
      | .ok balance => (e.storeBalance merchant balance, .ok balance)
      | .error fault => (e, .error fault) := by
  have happly : e.ledger.apply moment.held.balances merchant op moment.now =
      (row.apply op moment.now >>= fun next => .ok (⟨e.ledger.balances.insert merchant next⟩, next)) := by
    rw [Ledger.apply, show e.ledger.balance? merchant = some row from hrow, require_some, check_of free]
    rfl
  simp only [moveMoney, on_bind, on_get, on_lift, happly]
  cases row.apply op moment.now <;> rfl

/-- Moving money ends with no fault that the movement of the row does not end with, unless it is that there is no
row, or that someone else holds it. -/
theorem moveMoney_ne_error {merchant : MerchantId} {op : LedgerOp} {fault : Fault}
    (missing : e.balance? merchant = none → fault ≠ .refused .merchantNotFound) (held : fault ≠ .refused .timeout)
    (h : ∀ row, e.balance? merchant = some row → row.apply op moment.now ≠ .error fault) :
    ((moveMoney moment merchant op).on e).2 ≠ .error fault := by
  have hledger : e.ledger.apply moment.held.balances merchant op moment.now ≠ .error fault := by
    unfold Ledger.apply
    cases hrow : e.ledger.balance? merchant with
    | none => exact fun heq => missing hrow (by cases heq; rfl)
    | some row =>
      show (check _ _ >>= fun _ => row.apply op moment.now >>= _) ≠ _
      exact bind_ne_error (check_ne_error held) fun _ => bind_ne_error (h row hrow) fun _ => nofun
  unfold moveMoney
  rw [on_get_bind]
  exact on_lift_bind_ne_error hledger fun _ _ => nofun

/-- The engine in which a payment has completed with its credit. -/
def completed (e : Engine) (id : PaymentId) (p : Payment) (balance : Balance) (now : Instant) : Engine :=
  ((e.storeBalance p.merchantId balance).storePayment id p).countVolume p.merchantId p.invoiceAmount now

@[simp] theorem payment?_completed (e : Engine) (id other : PaymentId) (p : Payment) (balance : Balance)
    (now : Instant) :
    (e.completed id p balance now).payment? other = if other = id then some p else e.payment? other :=
  (e.storeBalance p.merchantId balance).payment?_storePayment id other p

@[simp] theorem balance?_completed (e : Engine) (id : PaymentId) (p : Payment) (balance : Balance) (now : Instant)
    (merchant : MerchantId) : (e.completed id p balance now).balance? merchant =
      if merchant = p.merchantId then some balance else e.balance? merchant :=
  e.balance?_storeBalance p.merchantId merchant balance

theorem completePayment_of_credited (id : PaymentId) (hrow : e.balance? p.merchantId = some row)
    (free : p.merchantId ∉ moment.held.balances) (credited : row.apply (.credit p.netAmount) moment.now = .ok balance) :
    ((completePayment moment id p).on e).1 = e.completed id p balance moment.now ∧
      ((e.gate.recordVolume p.merchantId p.invoiceAmount moment.now).2 ≠ .error .overflow →
        ((completePayment moment id p).on e).2 = .ok ()) := by
  simp only [completePayment, on_bind, on_moveMoney hrow free, credited, on_modify, on_attempt, on_recordVolume]
  show _ ∧ ((e.gate.recordVolume p.merchantId p.invoiceAmount moment.now).2 ≠ .error .overflow → _)
  have hgate : ((e.storeBalance p.merchantId balance).storePayment id p).gate = e.gate := rfl
  rw [hgate]
  cases hv : (e.gate.recordVolume p.merchantId p.invoiceAmount moment.now).2 with
  | ok u => exact ⟨rfl, fun _ => rfl⟩
  | error fault =>
    cases fault with
    | refused error => exact ⟨rfl, fun _ => rfl⟩
    | overflow => exact ⟨rfl, fun h => absurd rfl h⟩

theorem completePayment_of_refused {fault : Fault} (hrow : e.balance? p.merchantId = some row)
    (free : p.merchantId ∉ moment.held.balances) (refused : row.apply (.credit p.netAmount) moment.now = .error fault) :
    (completePayment moment id p).on e = (e, .error fault) := by
  simp only [completePayment, on_bind, on_moveMoney hrow free, refused]

theorem perform_handleEvent_of_unused (unused : e.payments.references.get? event.reference = none) :
    e.perform moment (.handleEvent event) = (e, .error (.refused .paymentNotFound)) := by
  simp only [perform, Operation.action, on_map, Engine.handleEvent, on_bind, on_get, on_lift, locate, unused,
    require_none]
  rfl

theorem perform_handleEvent_of_locked (located : e.payments.references.get? event.reference = some id) {fault : Fault}
    (locked : e.lockPayment moment.held.payments id = .error fault) :
    e.perform moment (.handleEvent event) = (e, .error fault) := by
  simp only [perform, Operation.action, on_map, Engine.handleEvent, on_bind, on_get, on_lift, locate, located, locked,
    require_some]
  rfl

section

variable (located : e.payments.references.get? event.reference = some id)
  (taken : e.lockPayment moment.held.payments id = .ok p)
include located taken

theorem perform_handleEvent_of_unchanged {status : PaymentStatus}
    (applied : p.applyEvent e.policy event moment.now = .ok (next, .unchanged status)) :
    e.perform moment (.handleEvent event) = (e, .ok (.transition (.unchanged status))) := by
  simp only [perform, Operation.action, on_map, Engine.handleEvent, on_bind, on_get, on_lift, locate, located, taken,
    applied, require_some, on_pure]
  rfl

theorem perform_handleEvent_of_short
    (applied : p.applyEvent e.policy event moment.now = .ok (next, .applied source target))
    (short : target ≠ .completed) :
    e.perform moment (.handleEvent event) = (e.storePayment id next, .ok (.transition (.applied source target))) := by
  simp only [perform, Operation.action, on_map, Engine.handleEvent, on_bind, on_get, on_lift, locate, located, taken,
    applied, require_some]
  cases target with
  | completed => exact absurd rfl short
  | created | pending | confirming | expired | failed => rfl

variable (hrow : e.balance? next.merchantId = some row) (free : next.merchantId ∉ moment.held.balances)
include hrow free

theorem perform_handleEvent_of_credited
    (applied : p.applyEvent e.policy event moment.now = .ok (next, .applied source .completed))
    (credited : row.apply (.credit next.netAmount) moment.now = .ok balance) :
    (e.perform moment (.handleEvent event)).1 = e.completed id next balance moment.now ∧
      ((e.gate.recordVolume next.merchantId next.invoiceAmount moment.now).2 ≠ .error .overflow →
        (e.perform moment (.handleEvent event)).2 = .ok (.transition (.applied source .completed))) := by
  obtain ⟨hnext, hresult⟩ := completePayment_of_credited id hrow free credited
  simp only [perform, Operation.action, on_map, Engine.handleEvent, on_bind, on_get, on_lift, locate, located, taken,
    applied, require_some]
  rcases hc : (completePayment moment id next).on e with ⟨after, fault | u⟩ <;> rw [hc] at hnext hresult
  · exact ⟨hnext, fun hv => by cases hresult hv⟩
  · exact ⟨hnext, fun _ => rfl⟩

theorem perform_handleEvent_of_refused {fault : Fault}
    (applied : p.applyEvent e.policy event moment.now = .ok (next, .applied source .completed))
    (refused : row.apply (.credit next.netAmount) moment.now = .error fault) :
    e.perform moment (.handleEvent event) = (e, .error fault) := by
  simp only [perform, Operation.action, on_map, Engine.handleEvent, on_bind, on_get, on_lift, locate, located, taken,
    applied, require_some, completePayment_of_refused hrow free refused]
  rfl

end

/-! ## Overflows -/

theorem moveMoney_eq_overflow_iff {merchant : MerchantId} {op : LedgerOp} :
    ((moveMoney moment merchant op).on e).2 = .error .overflow ↔
      ∃ row, e.balance? merchant = some row ∧ merchant ∉ moment.held.balances ∧
        row.apply op moment.now = .error .overflow := by
  cases hrow : e.balance? merchant with
  | none =>
    have hrefused : e.ledger.apply moment.held.balances merchant op moment.now =
        .error (.refused .merchantNotFound) := by
      rw [Ledger.apply, show e.ledger.balance? merchant = none from hrow]
      rfl
    simp [moveMoney, on_bind, hrefused]
  | some row =>
    by_cases free : merchant ∈ moment.held.balances
    · have hrefused : e.ledger.apply moment.held.balances merchant op moment.now = .error (.refused .timeout) := by
        rw [Ledger.apply, show e.ledger.balance? merchant = some row from hrow, require_some,
          check_of_not (not_not_intro free)]
        rfl
      simp [moveMoney, on_bind, hrefused, free]
    · rw [on_moveMoney hrow free]
      cases h : row.apply op moment.now <;> simp [h, free]

/-- The engine cannot hold what the completion of the payment would add to the balance or to the volumes of its
merchant. -/
def Overfills (e : Engine) (moment : Moment) (p : Payment) : Prop :=
  ∃ row, e.balance? p.merchantId = some row ∧ p.merchantId ∉ moment.held.balances ∧
    (row.apply (.credit p.netAmount) moment.now = .error .overflow ∨
      (∃ balance, row.apply (.credit p.netAmount) moment.now = .ok balance) ∧
        (e.gate.recordVolume p.merchantId p.invoiceAmount moment.now).2 = .error .overflow)

theorem completePayment_eq_overflow_iff (id : PaymentId) :
    ((completePayment moment id p).on e).2 = .error .overflow ↔ e.Overfills moment p := by
  obtain ⟨balance, ⟨row, hrow, free, happly⟩, -⟩ | ⟨fault, ho⟩ :=
    e.moveMoney_cases moment p.merchantId (.credit p.netAmount)
  · have hvolume : e.Overfills moment p ↔
        (e.gate.recordVolume p.merchantId p.invoiceAmount moment.now).2 = .error .overflow := by
      simp [Overfills, hrow, free, happly]
    have hgate : ((e.storeBalance p.merchantId balance).storePayment id p).gate = e.gate := rfl
    simp only [hvolume, completePayment, on_bind, on_moveMoney hrow free, happly, on_modify, on_attempt,
      on_recordVolume, hgate]
    rcases (e.gate.recordVolume p.merchantId p.invoiceAmount moment.now).2 with (error | _) | _ <;> simp
  · have hcredit : e.Overfills moment p ↔
        ((moveMoney moment p.merchantId (.credit p.netAmount)).on e).2 = .error .overflow := by
      rw [moveMoney_eq_overflow_iff]
      refine exists_congr fun row => and_congr_right fun hrow => and_congr_right fun free => or_iff_left ?_
      rintro ⟨⟨balance, happly⟩, -⟩
      rw [on_moveMoney hrow free, happly] at ho
      cases congrArg Prod.snd ho
    rw [hcredit, completePayment, on_bind, ho]
    simp

/-- The ways in which the handling of an event overflows. -/
inductive Overflows (e : Engine) (moment : Moment) (event : ChainEvent) : Prop
  /-- The amount is too far from the expected one to tell the difference. -/
  | unmeasured {id : PaymentId} {p : Payment} (located : e.payments.references.get? event.reference = some id)
    (taken : e.lockPayment moment.held.payments id = .ok p) (alive : p.status.isTerminal = false)
    (due : p.isOverdue moment.now = false) (sound : event.error = none) (far : event.observedAmount.sub? p.tokenAmount = none)
  /-- The event completes a payment that the engine has no room for. -/
  | overfilled {id : PaymentId} {p next : Payment} {source : PaymentStatus}
    (located : e.payments.references.get? event.reference = some id)
    (taken : e.lockPayment moment.held.payments id = .ok p)
    (applied : p.applyEvent e.policy event moment.now = .ok (next, .applied source .completed))
    (full : e.Overfills moment next)

theorem handleEvent_eq_overflow_iff :
    (e.perform moment (.handleEvent event)).2 = .error .overflow ↔ e.Overflows moment event := by
  constructor
  · intro h
    simp only [perform, Operation.action, on_map, Engine.handleEvent, on_bind, on_get, on_lift, locate] at h
    cases hr : e.payments.references.get? event.reference with
    | none => simp [hr, Except.map] at h
    | some id =>
      cases hp : e.lockPayment moment.held.payments id with
      | error fault =>
        simp only [hr, hp, require_some] at h
        cases h
        exact absurd hp (lockPayment_ne_error (fun h => by cases h) (fun h => by cases h))
      | ok p =>
        simp only [hr, hp, require_some] at h
        cases ha : p.applyEvent e.policy event moment.now with
        | error fault =>
          rw [ha] at h
          cases h
          obtain ⟨alive, due, sound, far⟩ := (p.applyEvent_eq_overflow_iff e.policy event moment.now).mp ha
          exact .unmeasured hr hp alive due sound far
        | ok moved =>
          obtain ⟨next, transition⟩ := moved
          rw [ha] at h
          cases transition with
          | unchanged status => cases h
          | applied source target =>
            cases target with
            | completed =>
              refine .overfilled hr hp ha ((completePayment_eq_overflow_iff id).mp ?_)
              simp only [on_bind] at h
              rcases hc : (completePayment moment id next).on e with ⟨after, fault | u⟩
              · rw [hc] at h
                cases h
                rfl
              · rw [hc] at h
                cases h
            | created | pending | confirming | expired | failed => cases h
  · intro h
    cases h with
    | unmeasured located taken alive due sound far =>
      have hfar := (Payment.applyEvent_eq_overflow_iff _ e.policy event moment.now).mpr ⟨alive, due, sound, far⟩
      simp only [perform, Operation.action, on_map, Engine.handleEvent, on_bind, on_get, on_lift, locate, located,
        taken, require_some, hfar]
      rfl
    | @overfilled id p next source located taken applied full =>
      have hfull := (completePayment_eq_overflow_iff id).mpr full
      simp only [perform, Operation.action, on_map, Engine.handleEvent, on_bind, on_get, on_lift, locate, located,
        taken, require_some, applied]
      rcases hc : (completePayment moment id next).on e with ⟨after, fault | u⟩ <;> rw [hc] at hfull
      · cases hfull
        rfl
      · cases hfull

end Engine
end Settlement
