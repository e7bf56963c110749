import Settlement.Compliance.Tier
import Settlement.Currency
import Settlement.Time.Instant

/-! The settings of a settlement engine. -/
namespace Settlement

structure SettlementConfig where
  settlementCurrency : Currency := ⟨"VND", 2⟩
  tokenCurrency : Currency := ⟨"USDT", 9⟩
  paymentFeePercent : Decimal := .ofNat 1
  paymentTtlSecs : UInt64 := 900
  requiredConfirmations : UInt32 := 12
  /-- The largest difference between the observed and the expected amount of tokens. -/
  amountTolerance : Decimal := .ofParts 1 6
  travelRuleThresholdUsd : Decimal := .ofNat 1000
  minimumPayout : Decimal := .ofNat 100000
  payoutFeePercent : Decimal := .zero
  /-- The longest wait for a balance that is in use. -/
  lockTimeoutMs : UInt64 := 2000
  tiers : TierTable := .default
  deriving DecidableEq

namespace SettlementConfig

protected def default : SettlementConfig := {}

/-- The longest lifetime that a configuration file may set: thirty days. -/
def maxPaymentTtlSecs : UInt64 := 2592000

def ttlMessage : String := "invalid config: payment_ttl_secs must be between 1 and 2592000"

def isValid (c : SettlementConfig) : Bool :=
  decide (1 ≤ c.paymentTtlSecs) && decide (c.paymentTtlSecs ≤ maxPaymentTtlSecs)

def paymentTtl? (c : SettlementConfig) : Option Int :=
  let seconds : Int := c.paymentTtlSecs.toNat
  if seconds ≤ Instant.maxSpan then some seconds else none

end SettlementConfig
end Settlement
