import Settlement.Codec.Basic
import Settlement.Compliance.Payer
import Settlement.Compliance.Profile

/-! The written form of tiers, limits, payers and profiles. -/
namespace Settlement

open Coded

instance : Coded KycTier := ofNames KycTier.all KycTier.name

instance : Coded TierLimits where
  encode l := .obj [("daily", encode l.daily), ("monthly", encode l.monthly)]
  decode format j := do
    let r ← Record.of? format 2 j
    return ⟨← r.optional format 0 "daily", ← r.optional format 1 "monthly"⟩

/-- A tier that is missing has its default limits; one that is there has the limits it names. -/
instance : Coded TierTable where
  encode t := .obj [("unverified", encode t.unverified), ("basic", encode t.basic),
    ("verified", encode t.verified), ("enhanced", encode t.enhanced)]
  decode format j := do
    let r ← Record.of? format 4 j
    let base := TierTable.default
    return ⟨← r.defaulted format 0 "unverified" base.unverified,
      ← r.defaulted format 1 "basic" base.basic,
      ← r.defaulted format 2 "verified" base.verified,
      ← r.defaulted format 3 "enhanced" base.enhanced⟩

instance : Coded PayerIdentity where
  encode p := .obj [("full_name", encode p.fullName), ("wallet_address", encode p.walletAddress),
    ("country_code", encode p.countryCode), ("id_document", encode p.idDocument)]
  decode format j := do
    let r ← Record.of? format 4 j
    return ⟨← r.required format 0 "full_name", ← r.required format 1 "wallet_address",
      ← r.required format 2 "country_code", ← r.optional format 3 "id_document"⟩

instance : Coded ComplianceProfile where
  encode p := .obj [("merchant_id", encode p.merchantId), ("tier", encode p.tier),
    ("daily_volume", encode p.dailyVolume), ("monthly_volume", encode p.monthlyVolume),
    ("day", encode p.day)]
  decode format j := do
    let r ← Record.of? format 5 j
    return ⟨← r.required format 0 "merchant_id", ← r.required format 1 "tier",
      ← r.required format 2 "daily_volume", ← r.required format 3 "monthly_volume",
      ← r.required format 4 "day"⟩

end Settlement
