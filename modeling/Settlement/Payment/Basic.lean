import Settlement.Compliance.Payer
import Settlement.Currency
import Settlement.Decimal.Arithmetic
import Settlement.Payment.Event
import Settlement.Payment.Status
import Settlement.Time.Instant

/-! A payment and its life. Amounts, rate and fee are fixed when the invoice is
written; events and the clock move only the status and what was observed. -/
namespace Settlement

structure Payment where
  id : PaymentId
  reference : PaymentReference
  merchantId : MerchantId
  invoiceAmount : Decimal
  currency : Currency
  tokenAmount : Decimal
  tokenCurrency : Currency
  chain : String
  exchangeRate : Decimal
  rateAsOf : Instant
  usdEquivalent : Decimal
  destinationWallet : String
  feePercent : Decimal
  feeAmount : Decimal
  netAmount : Decimal
  payer : Option PayerIdentity
  status : PaymentStatus
  createdAt : Instant
  updatedAt : Instant
  paidAt : Option Instant
  confirmedAt : Option Instant
  expiresAt : Instant
  txHash : Option String
  senderAddress : Option String
  confirmationDepth : UInt32
  failureReason : Option String
  deriving DecidableEq

namespace Payment

def invoiceMoney (p : Payment) : Money := ⟨p.invoiceAmount, p.currency⟩

def tokenMoney (p : Payment) : Money := ⟨p.tokenAmount, p.tokenCurrency⟩

def netMoney (p : Payment) : Money := ⟨p.netAmount, p.currency⟩

/-- The payment could expire, and its time is over. -/
def isOverdue (p : Payment) (now : Instant) : Bool := p.status.canExpire && decide (p.expiresAt < now)

def move (p : Payment) (status : PaymentStatus) (now : Instant) : Payment × PaymentTransition :=
  ({ p with status, updatedAt := now }, .applied p.status status)

def fail (p : Payment) (reason : String) (now : Instant) : Payment × PaymentTransition :=
  { p with failureReason := some reason }.move .failed now

def expire (p : Payment) (now : Instant) : Payment × PaymentTransition :=
  if p.isOverdue now then p.move .expired now else (p, .unchanged p.status)

def target (policy : ConfirmationPolicy) (event : ChainEvent) : PaymentStatus :=
  if event.finalized ∨ policy.requiredConfirmations ≤ event.confirmationDepth then .completed
  else if 0 < event.confirmationDepth then .confirming
  else .pending

/-- Why an observation cannot be of the transaction that was observed before. -/
def conflict? (p : Payment) (event : ChainEvent) : Option String :=
  match p.senderAddress with
  | some sender =>
    if sender = event.senderAddress then hashConflict? p event
    else some s!"sender address mismatch: expected {sender}, observed {event.senderAddress}"
  | none => hashConflict? p event
where
  hashConflict? (p : Payment) (event : ChainEvent) : Option String :=
    match p.txHash, event.txHash with
    | some known, some seen =>
      if known = seen then none
      else some s!"transaction hash mismatch: expected {known}, observed {seen}"
    | _, _ => none

/-- Records an observation: its sender and time if it is the first one, its hash if none was known,
and its depth. -/
def observed (p : Payment) (event : ChainEvent) (now : Instant) : Payment :=
  if p.status = .created then
    { p with
      senderAddress := some event.senderAddress
      txHash := event.txHash
      paidAt := some now
      confirmationDepth := event.confirmationDepth }
  else
    { p with
      txHash := p.txHash.or event.txHash
      confirmationDepth := event.confirmationDepth }

/-- Moves a payment forward if the observation asks for a later status than it has. -/
def advance (p : Payment) (policy : ConfirmationPolicy) (event : ChainEvent) (now : Instant) :
    Payment × PaymentTransition :=
  let status := target policy event
  if status.progress ≤ p.status.progress then (p, .unchanged p.status)
  else
    let p := p.observed event now
    let p := if status = .completed then { p with confirmedAt := some now } else p
    p.move status now

/-- Applies an observation. A terminal payment ignores it and an overdue one expires. An error of the
chain fails a payment that was observed before. A wrong amount is refused at the first observation
and fails the payment later, as does another sender or hash. -/
def applyEvent (p : Payment) (policy : ConfirmationPolicy) (event : ChainEvent) (now : Instant) :
    Except Fault (Payment × PaymentTransition) :=
  if p.status.isTerminal then .ok (p, .unchanged p.status)
  else if p.isOverdue now then .ok (p.expire now)
  else
    match event.error with
    | some error =>
      if p.status = .created then .ok (p, .unchanged p.status)
      else .ok (p.fail s!"chain reported error: {error}" now)
    | none => do
      let difference ← unguarded (event.observedAmount.sub? p.tokenAmount)
      if policy.amountTolerance < difference.abs then
        if p.status = .created then
          .error (.refused (.amountMismatch p.tokenAmount event.observedAmount))
        else
          .ok (p.fail s!"amount mismatch: expected {p.tokenAmount}, observed {event.observedAmount}" now)
      else
        match if p.status = .created then none else p.conflict? event with
        | some reason => .ok (p.fail reason now)
        | none => .ok (p.advance policy event now)

end Payment
end Settlement
