import Settlement.Codec.Compliance
import Settlement.Codec.Money
import Settlement.Config

/-! The written form of settings. A setting that is missing has its default. -/
namespace Settlement

open Coded

instance : Coded SettlementConfig where
  encode c := .obj [
    ("settlement_currency", encode c.settlementCurrency),
    ("token_currency", encode c.tokenCurrency),
    ("payment_fee_percent", encode c.paymentFeePercent),
    ("payment_ttl_secs", encode c.paymentTtlSecs),
    ("required_confirmations", encode c.requiredConfirmations),
    ("amount_tolerance", encode c.amountTolerance),
    ("travel_rule_threshold_usd", encode c.travelRuleThresholdUsd),
    ("minimum_payout", encode c.minimumPayout),
    ("payout_fee_percent", encode c.payoutFeePercent),
    ("lock_timeout_ms", encode c.lockTimeoutMs),
    ("tiers", encode c.tiers)]
  decode format j := do
    let r ← Record.of? format 11 j
    let base := SettlementConfig.default
    return {
      settlementCurrency := ← r.defaulted format 0 "settlement_currency" base.settlementCurrency
      tokenCurrency := ← r.defaulted format 1 "token_currency" base.tokenCurrency
      paymentFeePercent := ← r.defaulted format 2 "payment_fee_percent" base.paymentFeePercent
      paymentTtlSecs := ← r.defaulted format 3 "payment_ttl_secs" base.paymentTtlSecs
      requiredConfirmations :=
        ← r.defaulted format 4 "required_confirmations" base.requiredConfirmations
      amountTolerance := ← r.defaulted format 5 "amount_tolerance" base.amountTolerance
      travelRuleThresholdUsd :=
        ← r.defaulted format 6 "travel_rule_threshold_usd" base.travelRuleThresholdUsd
      minimumPayout := ← r.defaulted format 7 "minimum_payout" base.minimumPayout
      payoutFeePercent := ← r.defaulted format 8 "payout_fee_percent" base.payoutFeePercent
      lockTimeoutMs := ← r.defaulted format 9 "lock_timeout_ms" base.lockTimeoutMs
      tiers := ← r.defaulted format 10 "tiers" base.tiers }

end Settlement
