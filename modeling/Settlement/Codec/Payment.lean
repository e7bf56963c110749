import Settlement.Codec.Compliance
import Settlement.Codec.Money
import Settlement.Payment.Basic

/-! The written form of payments and events. -/
namespace Settlement

open Coded

instance : Coded PaymentStatus := ofNames PaymentStatus.all PaymentStatus.name

instance : Coded ChainEvent where
  encode e := .obj [
    ("payment_reference", encode e.reference),
    ("tx_hash", encode e.txHash),
    ("sender_address", encode e.senderAddress),
    ("observed_amount", encode e.observedAmount),
    ("confirmation_depth", encode e.confirmationDepth),
    ("finalized", encode e.finalized),
    ("error", encode e.error)]
  decode format j := do
    let r ← Record.of? format 7 j
    return {
      reference := ← r.required format 0 "payment_reference"
      txHash := ← r.optional format 1 "tx_hash"
      senderAddress := ← r.required format 2 "sender_address"
      observedAmount := ← r.required format 3 "observed_amount"
      confirmationDepth := ← r.required format 4 "confirmation_depth"
      finalized := ← r.required format 5 "finalized"
      error := ← r.optional format 6 "error" }

instance : Coded Payment where
  encode p := .obj [
    ("id", encode p.id),
    ("reference", encode p.reference),
    ("merchant_id", encode p.merchantId),
    ("invoice_amount", encode p.invoiceAmount),
    ("currency", encode p.currency),
    ("token_amount", encode p.tokenAmount),
    ("token_currency", encode p.tokenCurrency),
    ("chain", encode p.chain),
    ("exchange_rate", encode p.exchangeRate),
    ("rate_as_of", encode p.rateAsOf),
    ("usd_equivalent", encode p.usdEquivalent),
    ("destination_wallet", encode p.destinationWallet),
    ("fee_percent", encode p.feePercent),
    ("fee_amount", encode p.feeAmount),
    ("net_amount", encode p.netAmount),
    ("payer", encode p.payer),
    ("status", encode p.status),
    ("created_at", encode p.createdAt),
    ("updated_at", encode p.updatedAt),
    ("paid_at", encode p.paidAt),
    ("confirmed_at", encode p.confirmedAt),
    ("expires_at", encode p.expiresAt),
    ("tx_hash", encode p.txHash),
    ("sender_address", encode p.senderAddress),
    ("confirmation_depth", encode p.confirmationDepth),
    ("failure_reason", encode p.failureReason)]
  decode format j := do
    let r ← Record.of? format 26 j
    return {
      id := ← r.required format 0 "id"
      reference := ← r.required format 1 "reference"
      merchantId := ← r.required format 2 "merchant_id"
      invoiceAmount := ← r.required format 3 "invoice_amount"
      currency := ← r.required format 4 "currency"
      tokenAmount := ← r.required format 5 "token_amount"
      tokenCurrency := ← r.required format 6 "token_currency"
      chain := ← r.required format 7 "chain"
      exchangeRate := ← r.required format 8 "exchange_rate"
      rateAsOf := ← r.required format 9 "rate_as_of"
      usdEquivalent := ← r.required format 10 "usd_equivalent"
      destinationWallet := ← r.required format 11 "destination_wallet"
      feePercent := ← r.required format 12 "fee_percent"
      feeAmount := ← r.required format 13 "fee_amount"
      netAmount := ← r.required format 14 "net_amount"
      payer := ← r.optional format 15 "payer"
      status := ← r.required format 16 "status"
      createdAt := ← r.required format 17 "created_at"
      updatedAt := ← r.required format 18 "updated_at"
      paidAt := ← r.optional format 19 "paid_at"
      confirmedAt := ← r.optional format 20 "confirmed_at"
      expiresAt := ← r.required format 21 "expires_at"
      txHash := ← r.optional format 22 "tx_hash"
      senderAddress := ← r.optional format 23 "sender_address"
      confirmationDepth := ← r.required format 24 "confirmation_depth"
      failureReason := ← r.optional format 25 "failure_reason" }

end Settlement
