import Settlement.Engine.Action

/-! Payouts: the amount is reserved when a payout is opened, settled when it
completes, and released when it is rejected or fails. -/
namespace Settlement

structure PayoutRequest where
  merchantId : MerchantId
  amount : Decimal
  bank : BankDetails
  requestedBy : ActorId
  deriving DecidableEq

/-- The failed payout that a payout repeats, and how often it has failed so far. -/
structure Retry where
  failed : PayoutId
  count : UInt32
  deriving DecidableEq

namespace PayoutRequest

def again (p : Payout) (actor : ActorId) : PayoutRequest := ⟨p.merchantId, p.amount, p.bank, actor⟩

/-- The amount is positive and no less than the minimum, the account is well formed, and the fee can
be computed. -/
def validate (r : PayoutRequest) (config : SettlementConfig) : Except Fault Exchange.FeeBreakdown := do
  check r.amount.Positive .invalidAmount
  check (config.minimumPayout ≤ r.amount) (.belowMinimum config.minimumPayout)
  r.bank.validate
  Exchange.computeFee r.amount config.payoutFeePercent config.settlementCurrency

def payout (r : PayoutRequest) (id : PayoutId) (fee : Exchange.FeeBreakdown) (retry : Option Retry)
    (now : Instant) : Payout where
  id
  merchantId := r.merchantId
  amount := r.amount
  fee := fee.fee
  netAmount := fee.net
  bank := r.bank
  status := .requested
  requestedBy := r.requestedBy
  requestedAt := now
  approvedBy := none
  approvedAt := none
  processedBy := none
  processedAt := none
  completedAt := none
  rejectedBy := none
  rejectedAt := none
  failedAt := none
  bankReference := none
  rejectionReason := none
  failureReason := none
  retryCount := (retry.map Retry.count).getD 0
  retryOf := retry.map Retry.failed
  resubmittedAs := none
  updatedAt := now

end PayoutRequest

namespace Engine

def payout? (e : Engine) (id : PayoutId) : Option Payout := e.payouts.get? id

def lockPayout (e : Engine) (held : List PayoutId) (id : PayoutId) : Except Fault Payout :=
  lock (e.payout? id) .payoutNotFound held id

def storePayout (e : Engine) (id : PayoutId) (p : Payout) : Engine :=
  { e with payouts := e.payouts.insert id p }

/-- Reserves the amount of a payout, and opens it under a fresh identifier. -/
def openPayout (moment : Moment) (id : PayoutId) (request : PayoutRequest) (retry : Option Retry) :
    Action Payout := do
  let fee ← request.validate (← get).config
  let _ ← moveMoney moment request.merchantId (.reserve request.amount)
  let p := request.payout id fee retry moment.now
  modify (·.storePayout id p)
  return p

def requestPayout (moment : Moment) (id : PayoutId) (request : PayoutRequest) : Action Payout :=
  openPayout moment id request none

/-- The movement of money that comes with a move to a status. -/
def movement? (p : Payout) : PayoutStatus → Option LedgerOp
  | .completed => some (.settle p.amount)
  | .rejected | .failed => some (.release p.amount)
  | .requested | .approved | .processing => none

def moveFor (moment : Moment) (p : Payout) (status : PayoutStatus) : Action Unit :=
  match movement? p status with
  | some op => do
    let _ ← moveMoney moment p.merchantId op
  | none => return ()

/-- Acts on a payout. Its money moves before the record is replaced. -/
def actOnPayout (moment : Moment) (id : PayoutId) (actor : ActorId) (action : PayoutAction) :
    Action Payout := do
  let p ← (← get).lockPayout moment.held.payouts id
  let (next, transition) ← p.act actor moment.now action
  match transition with
  | .unchanged _ => return p
  | .applied _ status => do
    moveFor moment next status
    modify (·.storePayout id next)
    return next

/-- Opens a failed payout once more. The second attempt is opened once; later calls find it. The
failed payout stays taken meanwhile, and is linked with the second attempt last. -/
def resubmit (moment : Moment) (id fresh : PayoutId) (actor : ActorId) : Action Payout := do
  let failed ← (← get).lockPayout moment.held.payouts id
  check (failed.status = .failed) (.invalidPayoutStatus failed.status)
  match failed.resubmittedAs with
  | some retryId => (← get).lockPayout (id :: moment.held.payouts) retryId
  | none => do
    let retry ← openPayout moment fresh (.again failed actor) (some ⟨failed.id, failed.retryCount⟩)
    modify (·.storePayout id (failed.linked retry.id moment.now))
    return retry

/-- The payouts of a merchant, the oldest first, and those of one time in the order of their ranks. It
waits for the ones that others hold, however long that takes. -/
def payoutsFor (e : Engine) (merchant : MerchantId) (rank : PayoutId → Nat) : List Payout :=
  let mine := e.payouts.values.filter fun p => p.merchantId = merchant
  (mine.mergeSort fun a b => decide (rank a.id ≤ rank b.id)).mergeSort
    fun a b => decide (a.requestedAt ≤ b.requestedAt)

end Engine
end Settlement
