import Settlement.Compliance.Payer
import Settlement.Compliance.Profile
import Settlement.Table

/-! The checks that a payment passes before it is recorded. -/
namespace Settlement

structure ComplianceGate where
  profiles : Table MerchantId ComplianceProfile
  tiers : TierTable
  /-- The value in US dollars above which a payer must be identified. -/
  travelRuleThreshold : Decimal

structure GateResult where
  usdEquivalent : Decimal
  travelRuleRequired : Bool
  remainingLimit : Option Decimal
  deriving DecidableEq

namespace ComplianceGate

def opened (tiers : TierTable) (travelRuleThreshold : Decimal) : ComplianceGate :=
  ⟨.empty, tiers, travelRuleThreshold⟩

def profile? (g : ComplianceGate) (merchant : MerchantId) : Option ComplianceProfile :=
  g.profiles.get? merchant

def setProfile (g : ComplianceGate) (merchant : MerchantId) (p : ComplianceProfile) : ComplianceGate :=
  { g with profiles := g.profiles.insert merchant p }

def register (g : ComplianceGate) (merchant : MerchantId) (tier : KycTier) (now : Instant) :
    ComplianceGate :=
  match g.profile? merchant with
  | some _ => g
  | none => g.setProfile merchant (.opened merchant tier now)

def setTier (g : ComplianceGate) (merchant : MerchantId) (tier : KycTier) :
    Except Fault ComplianceGate := do
  let p ← require (g.profile? merchant) .merchantNotFound
  return g.setProfile merchant { p with tier := tier }

def remaining (g : ComplianceGate) (merchant : MerchantId) (now : Instant) :
    Except Fault (Option Decimal) := do
  let p ← require (g.profile? merchant) .merchantNotFound
  p.remainingLimit (g.tiers.limits p.tier) now

/-- Admits a payment: the payer, if named, is valid; a payment above the threshold names one; and
the amount is within the allowance of the merchant. -/
def evaluate (g : ComplianceGate) (merchant : MerchantId) (amount usdEquivalent : Decimal)
    (payer : Option PayerIdentity) (now : Instant) : Except Fault GateResult := do
  payer.forM PayerIdentity.validate
  let required := decide (g.travelRuleThreshold < usdEquivalent)
  check (required = true → payer.isSome) .travelRuleDataRequired
  let allowance ← g.remaining merchant now
  match allowance with
  | some left => check (amount ≤ left) (.kycLimitExceeded left)
  | none => .ok ()
  return ⟨usdEquivalent, required, allowance⟩

def recordVolume (g : ComplianceGate) (merchant : MerchantId) (amount : Decimal) (now : Instant) :
    ComplianceGate × Except Fault Unit :=
  match g.profile? merchant with
  | none => (g, .error (.refused .merchantNotFound))
  | some p =>
    let (p, result) := p.addVolume amount now
    (g.setProfile merchant p, result)

end ComplianceGate
end Settlement
