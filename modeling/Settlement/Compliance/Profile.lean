import Settlement.Compliance.Tier
import Settlement.Decimal.Arithmetic
import Settlement.Error
import Settlement.Identifier
import Settlement.Time.Instant

/-! The volume that a merchant has settled in the current day and month, and what
its limits still allow. -/
namespace Settlement

structure ComplianceProfile where
  merchantId : MerchantId
  tier : KycTier
  dailyVolume : Decimal
  monthlyVolume : Decimal
  day : Day
  deriving DecidableEq

namespace ComplianceProfile

def opened (merchantId : MerchantId) (tier : KycTier) (now : Instant) : ComplianceProfile :=
  ⟨merchantId, tier, .zero, .zero, now.day⟩

/-- The daily volume as read at `now`: zero on any other day. -/
def dailyVolumeAt (p : ComplianceProfile) (now : Instant) : Decimal :=
  if now.day = p.day then p.dailyVolume else .zero

def monthlyVolumeAt (p : ComplianceProfile) (now : Instant) : Decimal :=
  if now.day.SameMonth p.day then p.monthlyVolume else .zero

/-- Counts a settled amount. The daily counter moves first, so when only the monthly one overflows
the daily one has moved, under the old day. -/
def addVolume (p : ComplianceProfile) (amount : Decimal) (now : Instant) :
    ComplianceProfile × Except Fault Unit :=
  match (p.dailyVolumeAt now).add? amount with
  | none => (p, .error .overflow)
  | some daily =>
    match (p.monthlyVolumeAt now).add? amount with
    | none => ({ p with dailyVolume := daily }, .error .overflow)
    | some monthly => ({ p with dailyVolume := daily, monthlyVolume := monthly, day := now.day }, .ok ())

def left (limit : Option Decimal) (volume : Decimal) : Except Fault (Option Decimal) :=
  match limit with
  | none => .ok none
  | some limit => (unguarded (limit.sub? volume)).map some

/-- The allowance that remains at `now`, never below zero; `none` without any limit. -/
def remainingLimit (p : ComplianceProfile) (limits : TierLimits) (now : Instant) :
    Except Fault (Option Decimal) := do
  let daily ← left limits.daily (p.dailyVolumeAt now)
  let monthly ← left limits.monthly (p.monthlyVolumeAt now)
  return match daily, monthly with
    | some d, some m => some ((d.smaller m).larger .zero)
    | some d, none => some (d.larger .zero)
    | none, some m => some (m.larger .zero)
    | none, none => none

end ComplianceProfile
end Settlement
