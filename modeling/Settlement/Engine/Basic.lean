import Settlement.Compliance.Gate
import Settlement.Config
import Settlement.Ledger
import Settlement.Payment.Basic
import Settlement.Payout.Basic
import Settlement.RateTable

/-! The state of a settlement engine, its first state, and the entry of merchants
and rates. -/
namespace Settlement

/-- All payments, and the payment that each reference belongs to. -/
structure PaymentBook where
  records : Table PaymentId Payment
  references : Table PaymentReference PaymentId

structure Engine where
  config : SettlementConfig
  rates : RateTable
  ledger : Ledger
  gate : ComplianceGate
  payments : PaymentBook
  payouts : Table PayoutId Payout

/-- The records that others hold for longer than an operation waits. -/
structure Locks where
  balances : List MerchantId := []
  payments : List PaymentId := []
  payouts : List PayoutId := []

instance : Coe (List MerchantId) Locks := ⟨fun balances => { balances }⟩

/-- Where and when an operation takes place: the time, and what others hold meanwhile. -/
structure Moment where
  now : Instant
  held : Locks := {}

namespace Engine

def opened (config : SettlementConfig) : Engine :=
  { config
    rates := .empty
    ledger := .empty
    gate := .opened config.tiers config.travelRuleThresholdUsd
    payments := ⟨.empty, .empty⟩
    payouts := .empty }

/-- Opens a balance and a profile; a merchant that is known only changes tier. -/
def registerMerchant (e : Engine) (merchant : MerchantId) (tier : KycTier) (now : Instant) : Engine :=
  { e with
    ledger := e.ledger.openAccount merchant now
    gate :=
      match e.gate.setTier merchant tier with
      | .ok gate => gate
      | .error _ => e.gate.register merchant tier now }

def setRate (e : Engine) (pair : Exchange.CurrencyPair) (rate : Decimal) (now : Instant) : Engine :=
  { e with rates := e.rates.setRate pair rate now }

end Engine
end Settlement
