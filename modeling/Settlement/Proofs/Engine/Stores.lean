import Settlement.Engine.Operation

/-! The stores of an engine and the writes to them. Each write changes one store and
leaves the others as they are. -/
namespace Settlement
namespace Engine

def balance? (e : Engine) (merchant : MerchantId) : Option Balance := e.ledger.balance? merchant

def storeBalance (e : Engine) (merchant : MerchantId) (balance : Balance) : Engine :=
  { e with ledger := ⟨e.ledger.balances.insert merchant balance⟩ }

def countVolume (e : Engine) (merchant : MerchantId) (amount : Decimal) (now : Instant) : Engine :=
  { e with gate := (e.gate.recordVolume merchant amount now).1 }

variable (e : Engine)

/-! ## Balances -/

theorem balance?_storeBalance (merchant other : MerchantId) (balance : Balance) :
    (e.storeBalance merchant balance).balance? other = if other = merchant then some balance else e.balance? other :=
  e.ledger.balances.get?_insert merchant other balance

@[simp] theorem balance?_storePayment (id : PaymentId) (p : Payment) (merchant : MerchantId) :
    (e.storePayment id p).balance? merchant = e.balance? merchant := rfl

@[simp] theorem balance?_indexPayment (reference : PaymentReference) (id : PaymentId) (merchant : MerchantId) :
    (e.indexPayment reference id).balance? merchant = e.balance? merchant := rfl

@[simp] theorem balance?_storePayout (id : PayoutId) (p : Payout) (merchant : MerchantId) :
    (e.storePayout id p).balance? merchant = e.balance? merchant := rfl

@[simp] theorem balance?_countVolume (merchant other : MerchantId) (amount : Decimal) (now : Instant) :
    (e.countVolume merchant amount now).balance? other = e.balance? other := rfl

theorem balance?_openAccount (merchant other : MerchantId) (now : Instant) :
    (e.ledger.openAccount merchant now).balance? other =
      if other = merchant then some ((e.balance? merchant).getD (.opened merchant now)) else e.balance? other := by
  unfold Ledger.openAccount balance?
  cases h : e.ledger.balance? merchant with
  | some row =>
    by_cases hm : other = merchant
    · simp [hm, h]
    · simp [hm]
  | none => exact e.ledger.balances.get?_insert merchant other _

def readBalance {α : Type} (read : Balance → α) (missing : α) (merchant : MerchantId) : α :=
  ((e.balance? merchant).map read).getD missing

theorem readBalance_storeBalance {α : Type} (read : Balance → α) (missing : α) (merchant other : MerchantId)
    (balance : Balance) : (e.storeBalance merchant balance).readBalance read missing other =
      if other = merchant then read balance else e.readBalance read missing other := by
  unfold readBalance
  rw [balance?_storeBalance]
  split <;> rfl

theorem readBalance_openAccount {α : Type} {read : Balance → α} {missing : α}
    (hopened : ∀ merchant now, read (.opened merchant now) = missing) (merchant other : MerchantId) (now : Instant) :
    ({ e with ledger := e.ledger.openAccount merchant now } : Engine).readBalance read missing other =
      e.readBalance read missing other := by
  unfold readBalance
  show (((e.ledger.openAccount merchant now).balance? other).map _).getD _ = _
  rw [balance?_openAccount]
  split
  case isTrue h =>
    rw [h]
    cases e.balance? merchant with
    | some row => rfl
    | none => exact hopened merchant now
  case isFalse h => rfl

/-! ## Payments -/

theorem payment?_storePayment (id other : PaymentId) (p : Payment) :
    (e.storePayment id p).payment? other = if other = id then some p else e.payment? other :=
  e.payments.records.get?_insert id other p

@[simp] theorem payment?_indexPayment (reference : PaymentReference) (id other : PaymentId) :
    (e.indexPayment reference id).payment? other = e.payment? other := rfl

@[simp] theorem payment?_storeBalance (merchant : MerchantId) (balance : Balance) (id : PaymentId) :
    (e.storeBalance merchant balance).payment? id = e.payment? id := rfl

@[simp] theorem payment?_storePayout (id : PayoutId) (p : Payout) (other : PaymentId) :
    (e.storePayout id p).payment? other = e.payment? other := rfl

@[simp] theorem payment?_countVolume (merchant : MerchantId) (amount : Decimal) (now : Instant) (id : PaymentId) :
    (e.countVolume merchant amount now).payment? id = e.payment? id := rfl

theorem payment?_sweepExpired (moment : Moment) (id : PaymentId) :
    (e.sweepExpired moment).1.payment? id = (e.payment? id).map (swept moment id) :=
  e.payments.records.get?_mapValues _ id

theorem swept_cases (moment : Moment) (id : PaymentId) (p : Payment) :
    swept moment id p = p ∨ swept moment id p = (p.expire moment.now).1 := by
  unfold swept
  split
  · exact .inl rfl
  · exact .inr rfl

theorem lockPayment_eq_ok {e : Engine} {held : List PaymentId} {id : PaymentId} {p : Payment} :
    e.lockPayment held id = .ok p ↔ e.payment? id = some p ∧ id ∉ held := lock_eq_ok

theorem lockPayment_congr {e f : Engine} {id : PaymentId} (h : f.payment? id = e.payment? id)
    (held : List PaymentId) : f.lockPayment held id = e.lockPayment held id := by
  rw [lockPayment, lockPayment, h]

theorem lockPayment_of_missing {e : Engine} {id : PaymentId} (missing : e.payment? id = none)
    (held : List PaymentId) : e.lockPayment held id = .error (.refused .paymentNotFound) :=
  lock_of_none missing

theorem lockPayment_of_stored {e : Engine} {id : PaymentId} {p : Payment} (stored : e.payment? id = some p)
    (held : List PaymentId) :
    e.lockPayment held id = if id ∈ held then .error (.refused .timeout) else .ok p :=
  lock_of_some stored

theorem lockPayment_alone {e : Engine} {id : PaymentId} {p : Payment} (stored : e.payment? id = some p) :
    e.lockPayment [] id = .ok p := lockPayment_eq_ok.mpr ⟨stored, List.not_mem_nil⟩

theorem lockPayment_ne_error {e : Engine} {held : List PaymentId} {id : PaymentId} {fault : Fault}
    (missing : fault ≠ .refused .paymentNotFound) (busy : fault ≠ .refused .timeout) :
    e.lockPayment held id ≠ .error fault := lock_ne_error missing busy

/-! ## Payouts -/

theorem lockPayout_eq_ok {e : Engine} {held : List PayoutId} {id : PayoutId} {p : Payout} :
    e.lockPayout held id = .ok p ↔ e.payout? id = some p ∧ id ∉ held := lock_eq_ok

theorem payout?_storePayout (id other : PayoutId) (p : Payout) :
    (e.storePayout id p).payout? other = if other = id then some p else e.payout? other :=
  e.payouts.get?_insert id other p

theorem lockPayout_congr {e f : Engine} {id : PayoutId} (h : f.payout? id = e.payout? id) (held : List PayoutId) :
    f.lockPayout held id = e.lockPayout held id := by
  rw [lockPayout, lockPayout, h]

theorem lockPayout_of_missing {e : Engine} {id : PayoutId} (missing : e.payout? id = none)
    (held : List PayoutId) : e.lockPayout held id = .error (.refused .payoutNotFound) :=
  lock_of_none missing

theorem lockPayout_of_stored {e : Engine} {id : PayoutId} {p : Payout} (stored : e.payout? id = some p)
    (held : List PayoutId) :
    e.lockPayout held id = if id ∈ held then .error (.refused .timeout) else .ok p :=
  lock_of_some stored

theorem lockPayout_alone {e : Engine} {id : PayoutId} {p : Payout} (stored : e.payout? id = some p) :
    e.lockPayout [] id = .ok p := lockPayout_eq_ok.mpr ⟨stored, List.not_mem_nil⟩

theorem lockPayout_ne_error {e : Engine} {held : List PayoutId} {id : PayoutId} {fault : Fault}
    (missing : fault ≠ .refused .payoutNotFound) (busy : fault ≠ .refused .timeout) :
    e.lockPayout held id ≠ .error fault := lock_ne_error missing busy

@[simp] theorem payout?_storeBalance (merchant : MerchantId) (balance : Balance) (id : PayoutId) :
    (e.storeBalance merchant balance).payout? id = e.payout? id := rfl

end Engine
end Settlement
