import Settlement.Engine.Action

/-! Writing invoices. Amounts are computed first, then the compliance gate decides,
and only a payment that passes both is recorded. -/
namespace Settlement

open Exchange

structure NewInvoice where
  merchantId : MerchantId
  amount : Decimal
  /-- The reference to quote; a generated one if absent. -/
  reference : Option PaymentReference
  chain : String
  destinationWallet : String
  payer : Option PayerIdentity
  deriving DecidableEq

/-- An identifier and a reference that are not in use. -/
structure FreshPayment where
  id : PaymentId
  reference : PaymentReference
  deriving DecidableEq

namespace NewInvoice

/-- The amount is positive, and wallet, chain and reference are not blank. -/
def validate (i : NewInvoice) : Except Fault Unit := do
  check i.amount.Positive .invalidAmount
  check (Text.isBlankString i.destinationWallet = false)
    (.invalidInvoice "destination wallet is required")
  check (Text.isBlankString i.chain = false) (.invalidInvoice "chain is required")
  check (∀ r ∈ i.reference, Text.isBlankString r.text = false)
    (.invalidInvoice "payment reference must not be blank")

end NewInvoice

namespace Engine

def usd : String := "USD"

def usdEquivalent (e : Engine) (amount : Decimal) : Except Fault Decimal := do
  let code := e.config.settlementCurrency.code
  if code = usd then return amount
  let quote ← e.rates.rate (.ofCodes usd code)
  convert amount quote.rate

/-- The payment that an invoice asks for, if it may be made. -/
def draftPayment (e : Engine) (fresh : FreshPayment) (invoice : NewInvoice) (now : Instant) :
    Except Fault Payment := do
  invoice.validate
  let fiat := e.config.settlementCurrency
  let token := e.config.tokenCurrency
  let quote ← e.rates.rate (.ofCodes token.code fiat.code)
  let tokenAmount ← convert invoice.amount quote.rate
  let fee ← computeFee invoice.amount e.config.paymentFeePercent fiat
  let usdEquivalent ← e.usdEquivalent invoice.amount
  let _ ← e.gate.evaluate invoice.merchantId invoice.amount usdEquivalent invoice.payer now
  check (e.ledger.balance? invoice.merchantId).isSome .merchantNotFound
  let expiresAt ← require (e.config.paymentTtl?.bind now.plusSeconds?)
    (.invalidInvoice "payment ttl out of range")
  return {
    id := fresh.id
    reference := invoice.reference.getD fresh.reference
    merchantId := invoice.merchantId
    invoiceAmount := invoice.amount
    currency := fiat
    tokenAmount
    tokenCurrency := token
    chain := invoice.chain
    exchangeRate := quote.rate
    rateAsOf := quote.asOf
    usdEquivalent
    destinationWallet := invoice.destinationWallet
    feePercent := fee.feePercent
    feeAmount := fee.fee
    netAmount := fee.net
    payer := invoice.payer
    status := .created
    createdAt := now
    updatedAt := now
    paidAt := none
    confirmedAt := none
    expiresAt
    txHash := none
    senderAddress := none
    confirmationDepth := 0
    failureReason := none }

def storePayment (e : Engine) (id : PaymentId) (p : Payment) : Engine :=
  { e with payments := { e.payments with records := e.payments.records.insert id p } }

def indexPayment (e : Engine) (reference : PaymentReference) (id : PaymentId) : Engine :=
  { e with payments := { e.payments with references := e.payments.references.insert reference id } }

/-- Records a payment under its reference, which must not be in use. -/
def recordPayment (p : Payment) : Action Unit := do
  check (((← get).payments.references.get? p.reference).isNone) .duplicateReference
  modify (·.storePayment p.id p)
  modify (·.indexPayment p.reference p.id)

def createInvoice (fresh : FreshPayment) (invoice : NewInvoice) (now : Instant) : Action Payment := do
  let p ← (← get).draftPayment fresh invoice now
  recordPayment p
  return p

end Engine
end Settlement
