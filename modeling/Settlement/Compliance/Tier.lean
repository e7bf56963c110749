import Settlement.Decimal.Basic
import Settlement.Text.Case

/-! How far a merchant has been verified, and the volumes that each tier allows. -/
namespace Settlement

inductive KycTier
  | unverified | basic | verified | enhanced
  deriving DecidableEq

namespace KycTier

def all : List KycTier := [unverified, basic, verified, enhanced]

theorem mem_all (t : KycTier) : t ∈ all := by cases t <;> decide

def name : KycTier → String
  | unverified => "unverified"
  | basic => "basic"
  | verified => "verified"
  | enhanced => "enhanced"

instance : ToString KycTier := ⟨name⟩

/-- The tier of a name in any case; otherwise a message that repeats the name in lower case. -/
def ofString (s : String) : Except String KycTier :=
  let lowered := Text.lower s
  match all.find? (·.name = lowered) with
  | some tier => .ok tier
  | none => .error s!"unknown kyc tier: {lowered}"

end KycTier

/-- The most that may be settled in a day and in a month; `none` is no limit. -/
structure TierLimits where
  daily : Option Decimal
  monthly : Option Decimal
  deriving DecidableEq

namespace TierLimits

def capped (daily monthly : Decimal) : TierLimits := ⟨some daily, some monthly⟩

def unlimited : TierLimits := ⟨none, none⟩

end TierLimits

structure TierTable where
  unverified : TierLimits := .capped .zero .zero
  basic : TierLimits := .capped (.ofNat 50000000) (.ofNat 500000000)
  verified : TierLimits := .capped (.ofNat 500000000) (.ofNat 5000000000)
  enhanced : TierLimits := .unlimited
  deriving DecidableEq

namespace TierTable

protected def default : TierTable := {}

def limits (t : TierTable) : KycTier → TierLimits
  | .unverified => t.unverified
  | .basic => t.basic
  | .verified => t.verified
  | .enhanced => t.enhanced

end TierTable
end Settlement
