import Settlement.Codec.Basic
import Settlement.Payout.Basic

/-! The written form of payouts and bank details. -/
namespace Settlement

open Coded

instance : Coded PayoutStatus := ofNames PayoutStatus.all PayoutStatus.name

instance : Coded BankDetails where
  encode b := .obj [
    ("bank_name", encode b.bankName),
    ("account_number", encode b.accountNumber),
    ("account_holder", encode b.accountHolder),
    ("branch", encode b.branch)]
  decode format j := do
    let r ← Record.of? format 4 j
    return {
      bankName := ← r.required format 0 "bank_name"
      accountNumber := ← r.required format 1 "account_number"
      accountHolder := ← r.required format 2 "account_holder"
      branch := ← r.optional format 3 "branch" }

instance : Coded Payout where
  encode p := .obj [
    ("id", encode p.id),
    ("merchant_id", encode p.merchantId),
    ("amount", encode p.amount),
    ("fee", encode p.fee),
    ("net_amount", encode p.netAmount),
    ("bank", encode p.bank),
    ("status", encode p.status),
    ("requested_by", encode p.requestedBy),
    ("requested_at", encode p.requestedAt),
    ("approved_by", encode p.approvedBy),
    ("approved_at", encode p.approvedAt),
    ("processed_by", encode p.processedBy),
    ("processed_at", encode p.processedAt),
    ("completed_at", encode p.completedAt),
    ("rejected_by", encode p.rejectedBy),
    ("rejected_at", encode p.rejectedAt),
    ("failed_at", encode p.failedAt),
    ("bank_reference", encode p.bankReference),
    ("rejection_reason", encode p.rejectionReason),
    ("failure_reason", encode p.failureReason),
    ("retry_count", encode p.retryCount),
    ("retry_of", encode p.retryOf),
    ("resubmitted_as", encode p.resubmittedAs),
    ("updated_at", encode p.updatedAt)]
  decode format j := do
    let r ← Record.of? format 24 j
    return {
      id := ← r.required format 0 "id"
      merchantId := ← r.required format 1 "merchant_id"
      amount := ← r.required format 2 "amount"
      fee := ← r.required format 3 "fee"
      netAmount := ← r.required format 4 "net_amount"
      bank := ← r.required format 5 "bank"
      status := ← r.required format 6 "status"
      requestedBy := ← r.required format 7 "requested_by"
      requestedAt := ← r.required format 8 "requested_at"
      approvedBy := ← r.optional format 9 "approved_by"
      approvedAt := ← r.optional format 10 "approved_at"
      processedBy := ← r.optional format 11 "processed_by"
      processedAt := ← r.optional format 12 "processed_at"
      completedAt := ← r.optional format 13 "completed_at"
      rejectedBy := ← r.optional format 14 "rejected_by"
      rejectedAt := ← r.optional format 15 "rejected_at"
      failedAt := ← r.optional format 16 "failed_at"
      bankReference := ← r.optional format 17 "bank_reference"
      rejectionReason := ← r.optional format 18 "rejection_reason"
      failureReason := ← r.optional format 19 "failure_reason"
      retryCount := ← r.required format 20 "retry_count"
      retryOf := ← r.optional format 21 "retry_of"
      resubmittedAs := ← r.optional format 22 "resubmitted_as"
      updatedAt := ← r.required format 23 "updated_at" }

end Settlement
