import Mathlib.Order.Bounds.Basic
import Settlement.Engine.Operation
import Settlement.Proofs.Compliance.Order

/-! When the gate admits a payment. The conditions are looked at in a fixed order, and the first one that
is not met decides the refusal. What is reported to be left of the limits is the largest amount that they
still allow. -/
namespace Settlement
namespace Decimal

structure HalfRange (s : Nat) (d : Decimal) : Prop where
  multiple : MultipleOf s d.toRat
  small : |d.toRat| < 2 ^ 95 / 10 ^ s

theorem HalfRange.ofNat {s n : Nat} {h : n < 2 ^ 96} (small : (n : ℚ) < 2 ^ 95 / 10 ^ s) :
    HalfRange s (Decimal.ofNat n h) where
  multiple := ⟨n * 10 ^ s, by rw [toRat_ofNat]; push_cast; field_simp⟩
  small := by rwa [toRat_ofNat, abs_of_nonneg (Nat.cast_nonneg n)]

theorem HalfRange.zero (s : Nat) : HalfRange s .zero := .ofNat (by rw [Nat.cast_zero]; positivity)

theorem HalfRange.sub? {s : Nat} (hs : s ≤ 28) {a b : Decimal} (ha : HalfRange s a) (hb : HalfRange s b) :
    ∃ c, a.sub? b = some c ∧ c.toRat = a.toRat - b.toRat := by
  refine sub?_of_representable ((ha.multiple.sub hb.multiple).representable hs ?_)
  calc |a.toRat - b.toRat| ≤ |a.toRat| + |b.toRat| := abs_sub _ _
    _ < 2 ^ 95 / 10 ^ s + 2 ^ 95 / 10 ^ s := add_lt_add ha.small hb.small
    _ = 2 ^ 96 / 10 ^ s := by ring

end Decimal

/-! ## Payers -/

structure PayerIdentity.Valid (p : PayerIdentity) : Prop where
  name : Text.isBlankString p.fullName = false
  wallet : Text.isBlankString p.walletAddress = false
  country : PayerIdentity.isCountryCode p.countryCode = true

theorem PayerIdentity.validate_eq_ok_iff {p : PayerIdentity} : p.validate = .ok () ↔ p.Valid := by
  simp only [validate, bind_eq_ok, check_eq_ok]
  constructor
  · rintro ⟨_, name, _, wallet, country⟩
    exact ⟨name, wallet, country⟩
  · rintro ⟨name, wallet, country⟩
    exact ⟨(), name, (), wallet, country⟩

theorem PayerIdentity.validate_of_not_valid {p : PayerIdentity} (h : ¬ p.Valid) :
    ∃ reason, p.validate = .error (.refused (.invalidPayerIdentity reason)) := by
  by_cases name : Text.isBlankString p.fullName = false
  · by_cases wallet : Text.isBlankString p.walletAddress = false
    · have country : ¬ PayerIdentity.isCountryCode p.countryCode = true := fun country => h ⟨name, wallet, country⟩
      rw [validate, check_of name, check_of wallet, check_of_not country]
      exact ⟨_, rfl⟩
    · rw [validate, check_of name, check_of_not wallet]
      exact ⟨_, rfl⟩
  · rw [validate, check_of_not name]
    exact ⟨_, rfl⟩

/-! ## Limits -/

namespace ComplianceProfile

open Decimal

variable {p : ComplianceProfile} {limits : TierLimits} {day : Day} {s : Nat}

def settledOn (p : ComplianceProfile) (day : Day) : ℚ := if p.day = day then p.dailyVolume.toRat else 0

def settledInMonth (p : ComplianceProfile) (day : Day) : ℚ :=
  if p.day.SameMonth day then p.monthlyVolume.toRat else 0

theorem toRat_dailyVolumeAt_eq_settledOn (p : ComplianceProfile) (now : Instant) :
    (p.dailyVolumeAt now).toRat = p.settledOn now.day := by
  rw [toRat_dailyVolumeAt, settledOn]
  exact if_congr eq_comm rfl rfl

theorem toRat_monthlyVolumeAt_eq_settledInMonth (p : ComplianceProfile) (now : Instant) :
    (p.monthlyVolumeAt now).toRat = p.settledInMonth now.day := by
  rw [toRat_monthlyVolumeAt, settledInMonth]
  exact if_congr ⟨.symm, .symm⟩ rfl rfl

/-- With the amount on top of what has been settled no cap is exceeded. -/
structure Allows (p : ComplianceProfile) (limits : TierLimits) (day : Day) (amount : ℚ) : Prop where
  daily : ∀ cap ∈ limits.daily, p.settledOn day + amount ≤ cap.toRat
  monthly : ∀ cap ∈ limits.monthly, p.settledInMonth day + amount ≤ cap.toRat

theorem Allows.mono {a b : ℚ} (h : p.Allows limits day b) (hab : a ≤ b) : p.Allows limits day a where
  daily cap hcap := (add_le_add_right hab _).trans (h.daily cap hcap)
  monthly cap hcap := (add_le_add_right hab _).trans (h.monthly cap hcap)

/-- What is said to be left of the limits: nothing where there are none, else the largest amount that they allow,
and zero if that is negative. -/
structure Leaves (p : ComplianceProfile) (limits : TierLimits) (day : Day) (left : Option Decimal) : Prop where
  unlimited : left = none ↔ limits.daily = none ∧ limits.monthly = none
  largest : ∀ d ∈ left, ∃ most, IsGreatest {amount | p.Allows limits day amount} most ∧ d.toRat = max most 0

theorem Leaves.allows_iff {left : Option Decimal} (h : p.Leaves limits day left) {amount : ℚ} (positive : 0 < amount) :
    p.Allows limits day amount ↔ ∀ d ∈ left, amount ≤ d.toRat := by
  cases left with
  | none =>
    obtain ⟨hdaily, hmonthly⟩ := h.unlimited.mp rfl
    exact ⟨fun _ _ => nofun, fun _ => ⟨by simp [hdaily], by simp [hmonthly]⟩⟩
  | some d =>
    obtain ⟨most, ⟨hmost, hupper⟩, hd⟩ := h.largest d rfl
    constructor
    · rintro hallows d' ⟨⟩
      rw [hd]
      exact (hupper hallows).trans (le_max_left most 0)
    · intro hle
      have hle : amount ≤ max most 0 := hd ▸ hle d rfl
      exact Allows.mono hmost ((le_max_iff.mp hle).resolve_right (not_le_of_gt positive))

/-- The limits and the volumes are so that their differences are exact. -/
structure Measured (s : Nat) (p : ComplianceProfile) (limits : TierLimits) : Prop where
  dailyVolume : HalfRange s p.dailyVolume
  monthlyVolume : HalfRange s p.monthlyVolume
  daily : ∀ cap ∈ limits.daily, HalfRange s cap
  monthly : ∀ cap ∈ limits.monthly, HalfRange s cap

theorem left_of_halfRange (hs : s ≤ 28) {limit : Option Decimal} {volume : Decimal}
    (hlimit : ∀ cap ∈ limit, HalfRange s cap) (hvolume : HalfRange s volume) :
    ∃ rest, left limit volume = .ok rest ∧ rest.map toRat = limit.map fun cap => cap.toRat - volume.toRat := by
  cases limit with
  | none => exact ⟨none, rfl, rfl⟩
  | some cap =>
    obtain ⟨c, hc, hvalue⟩ := (hlimit cap rfl).sub? hs hvolume
    refine ⟨some c, ?_, by simp [hvalue]⟩
    rw [left, hc]
    rfl

theorem allows_iff_le {amount : ℚ} : p.Allows limits day amount ↔
    (∀ cap ∈ limits.daily, amount ≤ cap.toRat - p.settledOn day) ∧
      ∀ cap ∈ limits.monthly, amount ≤ cap.toRat - p.settledInMonth day := by
  simp only [le_sub_iff_add_le']
  exact ⟨fun h => ⟨h.daily, h.monthly⟩, fun ⟨daily, monthly⟩ => ⟨daily, monthly⟩⟩

/-- If just the amounts up to `most` are allowed, then `most` is what is left, and zero if that is negative. -/
theorem leaves_some {d : Decimal} (most : ℚ) (capped : ¬ (limits.daily = none ∧ limits.monthly = none))
    (hmost : ∀ amount, p.Allows limits day amount ↔ amount ≤ most) (hd : d.toRat = max most 0) :
    p.Leaves limits day (some d) := by
  refine ⟨⟨nofun, fun h => absurd h capped⟩, ?_⟩
  rintro _ ⟨⟩
  exact ⟨most, ⟨(hmost most).mpr le_rfl, fun amount => (hmost amount).mp⟩, hd⟩

theorem remainingLimit_leaves (hs : s ≤ 28) (h : p.Measured s limits) (now : Instant) :
    ∃ left, p.remainingLimit limits now = .ok left ∧ p.Leaves limits now.day left := by
  have hdailyVolume : HalfRange s (p.dailyVolumeAt now) := by
    unfold dailyVolumeAt
    split
    · exact h.dailyVolume
    · exact .zero s
  have hmonthlyVolume : HalfRange s (p.monthlyVolumeAt now) := by
    unfold monthlyVolumeAt
    split
    · exact h.monthlyVolume
    · exact .zero s
  obtain ⟨daily, hdaily, hd⟩ := left_of_halfRange hs h.daily hdailyVolume
  obtain ⟨monthly, hmonthly, hm⟩ := left_of_halfRange hs h.monthly hmonthlyVolume
  rw [toRat_dailyVolumeAt_eq_settledOn] at hd
  rw [toRat_monthlyVolumeAt_eq_settledInMonth] at hm
  simp only [remainingLimit, hdaily, hmonthly, bind, Except.bind, pure, Except.pure]
  refine ⟨_, rfl, ?_⟩
  cases hdc : limits.daily with
  | none =>
    rw [hdc, Option.map_none, Option.map_eq_none_iff] at hd
    subst hd
    cases hmc : limits.monthly with
    | none =>
      rw [hmc, Option.map_none, Option.map_eq_none_iff] at hm
      subst hm
      exact ⟨⟨fun _ => ⟨hdc, hmc⟩, fun _ => rfl⟩, fun _ => nofun⟩
    | some mcap =>
      rw [hmc, Option.map_some, Option.map_eq_some_iff] at hm
      obtain ⟨m, rfl, hm⟩ := hm
      refine leaves_some m.toRat (by simp [hmc]) (fun amount => ?_) (by rw [toRat_larger, toRat_zero])
      simp [allows_iff_le, hdc, hmc, hm]
  | some dcap =>
    rw [hdc, Option.map_some, Option.map_eq_some_iff] at hd
    obtain ⟨d, rfl, hd⟩ := hd
    cases hmc : limits.monthly with
    | none =>
      rw [hmc, Option.map_none, Option.map_eq_none_iff] at hm
      subst hm
      refine leaves_some d.toRat (by simp [hdc]) (fun amount => ?_) (by rw [toRat_larger, toRat_zero])
      simp [allows_iff_le, hdc, hmc, hd]
    | some mcap =>
      rw [hmc, Option.map_some, Option.map_eq_some_iff] at hm
      obtain ⟨m, rfl, hm⟩ := hm
      refine leaves_some (min d.toRat m.toRat) (by simp [hdc]) (fun amount => ?_)
        (by rw [toRat_larger, toRat_smaller, toRat_zero])
      simp [allows_iff_le, hdc, hmc, hd, hm]

/-- For settlements that were counted in the order of time, what the profile knows is the sum of their amounts. -/
theorem Reflects.settled {history : List (Decimal × Day)} {now : Instant} (h : p.Reflects history)
    (later : p.day ≤ now.day) :
    (sum? (amountsOn (· = now.day) history)).map toRat = some (p.settledOn now.day) ∧
      (sum? (amountsOn (·.SameMonth now.day) history)).map toRat = some (p.settledInMonth now.day) := by
  obtain ⟨hdaily, hmonthly⟩ := h.read later
  rw [hdaily, hmonthly, Option.map_some, Option.map_some, toRat_dailyVolumeAt_eq_settledOn,
    toRat_monthlyVolumeAt_eq_settledInMonth]
  exact ⟨rfl, rfl⟩

end ComplianceProfile

/-! ## Verdicts -/

namespace ComplianceGate

variable {g : ComplianceGate} {merchant : MerchantId} {amount usdEquivalent : Decimal} {payer : Option PayerIdentity}
  {now : Instant} {p : ComplianceProfile} {left : Option Decimal}

theorem evaluate_of_invalid (h : ¬ ∀ identity ∈ payer, identity.Valid) :
    ∃ identity reason, payer = some identity ∧
      identity.validate = .error (.refused (.invalidPayerIdentity reason)) ∧
      g.evaluate merchant amount usdEquivalent payer now = .error (.refused (.invalidPayerIdentity reason)) := by
  cases payer with
  | none => exact absurd (fun _ => nofun) h
  | some identity =>
    have hinvalid : ¬ identity.Valid := fun hvalid => h (by rintro _ ⟨⟩; exact hvalid)
    obtain ⟨reason, hreason⟩ := PayerIdentity.validate_of_not_valid hinvalid
    refine ⟨identity, reason, rfl, hreason, ?_⟩
    show (identity.validate >>= _) = _
    rw [hreason]
    rfl

section

variable (valid : ∀ identity ∈ payer, identity.Valid)
include valid

theorem evaluate_of_valid : g.evaluate merchant amount usdEquivalent payer now = do
    check (decide (g.travelRuleThreshold < usdEquivalent) = true → payer.isSome) .travelRuleDataRequired
    let allowance ← g.remaining merchant now
    match allowance with
    | some left => check (amount ≤ left) (.kycLimitExceeded left)
    | none => .ok ()
    return ⟨usdEquivalent, decide (g.travelRuleThreshold < usdEquivalent), allowance⟩ := by
  have hvalidate : payer.forM PayerIdentity.validate = .ok () := by
    cases payer with
    | none => rfl
    | some identity => exact PayerIdentity.validate_eq_ok_iff.mpr (valid identity rfl)
  rw [evaluate, hvalidate]
  rfl

theorem evaluate_of_unnamed (unnamed : ¬ (usdEquivalent ≤ g.travelRuleThreshold ∨ payer.isSome)) :
    g.evaluate merchant amount usdEquivalent payer now = .error (.refused .travelRuleDataRequired) := by
  obtain ⟨habove, hnone⟩ := not_or.mp unnamed
  rw [Decimal.not_le] at habove
  rw [evaluate_of_valid valid, check_of_not fun h => hnone (h (decide_eq_true habove))]
  rfl

variable (named : usdEquivalent ≤ g.travelRuleThreshold ∨ payer.isSome)
include named

theorem evaluate_of_named : g.evaluate merchant amount usdEquivalent payer now = do
    let allowance ← g.remaining merchant now
    match allowance with
    | some left => check (amount ≤ left) (.kycLimitExceeded left)
    | none => .ok ()
    return ⟨usdEquivalent, decide (g.travelRuleThreshold < usdEquivalent), allowance⟩ := by
  rw [evaluate_of_valid valid, check_of fun h => named.resolve_left (Decimal.not_le.mpr (of_decide_eq_true h))]
  rfl

theorem evaluate_of_unknown (unknown : g.profile? merchant = none) :
    g.evaluate merchant amount usdEquivalent payer now = .error (.refused .merchantNotFound) := by
  rw [evaluate_of_named valid named, remaining, unknown]
  rfl

theorem evaluate_of_known (amount : Decimal) (known : g.profile? merchant = some p)
    (hleft : p.remainingLimit (g.tiers.limits p.tier) now = .ok left) :
    ((∀ d ∈ left, amount ≤ d) → g.evaluate merchant amount usdEquivalent payer now =
        .ok ⟨usdEquivalent, decide (g.travelRuleThreshold < usdEquivalent), left⟩) ∧
      ∀ d ∈ left, ¬ amount ≤ d →
        g.evaluate merchant amount usdEquivalent payer now = .error (.refused (.kycLimitExceeded d)) := by
  have hremaining : g.remaining merchant now = .ok left := by
    rw [remaining, known]
    exact hleft
  rw [evaluate_of_named valid named, hremaining]
  cases left with
  | none => exact ⟨fun _ => rfl, by simp⟩
  | some d =>
    constructor
    · intro hle
      show (check _ _ >>= _) = _
      rw [check_of (hle d rfl)]
      rfl
    · rintro _ ⟨⟩ hgt
      show (check _ _ >>= _) = _
      rw [check_of_not hgt]
      rfl

theorem evaluate_of_measured (now : Instant) {s : Nat} (hs : s ≤ 28) (positive : amount.Positive)
    (known : g.profile? merchant = some p) (measured : p.Measured s (g.tiers.limits p.tier)) :
    ∃ left, p.Leaves (g.tiers.limits p.tier) now.day left ∧
      (p.Allows (g.tiers.limits p.tier) now.day amount.toRat → g.evaluate merchant amount usdEquivalent payer now =
        .ok ⟨usdEquivalent, decide (g.travelRuleThreshold < usdEquivalent), left⟩) ∧
      (¬ p.Allows (g.tiers.limits p.tier) now.day amount.toRat → ∃ d, left = some d ∧
        g.evaluate merchant amount usdEquivalent payer now = .error (.refused (.kycLimitExceeded d))) := by
  obtain ⟨left, hleft, hleaves⟩ := ComplianceProfile.remainingLimit_leaves hs measured now
  obtain ⟨hok, hrefused⟩ := evaluate_of_known valid named amount known hleft
  have hallows := hleaves.allows_iff (Decimal.positive_iff_toRat.mp positive)
  simp only [← Decimal.le_iff_toRat] at hallows
  refine ⟨left, hleaves, fun h => hok (hallows.mp h), fun h => ?_⟩
  rw [hallows, not_forall] at h
  obtain ⟨d, h⟩ := h
  obtain ⟨hd, hgt⟩ := Classical.not_imp.mp h
  exact ⟨d, hd, hrefused d hd hgt⟩

end

end ComplianceGate

namespace Engine

open ComplianceProfile

/-- Evaluating a payment changes nothing, and admits it just if the payer, if there is one, is valid, a payer is given
if the value is above the threshold, the merchant has a profile, and no cap of its tier is exceeded by what it has
settled and the amount on top. Of these conditions the first one that is not met gives the refusal. What is reported to
be left, in the verdict or in the refusal, is the largest amount that the caps allow, or zero if that is negative, and
nothing if there are no caps. What has been settled is the sum of what was counted, in the order of time, on the day
and in the month. -/
theorem first_unmet_condition_refuses (e : Engine) (moment : Moment) (merchant : MerchantId) {amount : Decimal}
    (usdEquivalent : Decimal) (payer : Option PayerIdentity) {s : Nat} (hs : s ≤ 28) (positive : amount.Positive)
    (measured : ∀ p, e.gate.profile? merchant = some p → p.Measured s (e.gate.tiers.limits p.tier)) :
    let verdict := e.gate.evaluate merchant amount usdEquivalent payer moment.now
    let day := moment.now.day
    let valid := ∀ identity ∈ payer, identity.Valid
    let named := usdEquivalent ≤ e.gate.travelRuleThreshold ∨ payer.isSome
    e.perform moment (.evaluate merchant amount usdEquivalent payer) = (e, verdict.map Answer.verdict) ∧
    ((∃ result, verdict = .ok result) ↔ valid ∧ named ∧ ∃ p, e.gate.profile? merchant = some p ∧
      p.Allows (e.gate.tiers.limits p.tier) day amount.toRat) ∧
    (¬ valid → ∃ identity reason, payer = some identity ∧
      identity.validate = .error (.refused (.invalidPayerIdentity reason)) ∧
      verdict = .error (.refused (.invalidPayerIdentity reason))) ∧
    (valid → ¬ named → verdict = .error (.refused .travelRuleDataRequired)) ∧
    (valid → named → e.gate.profile? merchant = none → verdict = .error (.refused .merchantNotFound)) ∧
    ∀ p, e.gate.profile? merchant = some p →
      (valid → named → ∃ left, p.Leaves (e.gate.tiers.limits p.tier) day left ∧
        (p.Allows (e.gate.tiers.limits p.tier) day amount.toRat →
          verdict = .ok ⟨usdEquivalent, decide (e.gate.travelRuleThreshold < usdEquivalent), left⟩) ∧
        (¬ p.Allows (e.gate.tiers.limits p.tier) day amount.toRat →
          ∃ d, left = some d ∧ verdict = .error (.refused (.kycLimitExceeded d)))) ∧
      ∀ history, p.Reflects history → p.day ≤ day →
        (Decimal.sum? (amountsOn (· = day) history)).map Decimal.toRat = some (p.settledOn day) ∧
        (Decimal.sum? (amountsOn (·.SameMonth day) history)).map Decimal.toRat = some (p.settledInMonth day) := by
  intro verdict day valid named
  have hknown (hvalid : valid) (hnamed : named) (p : ComplianceProfile) (known : e.gate.profile? merchant = some p) :=
    ComplianceGate.evaluate_of_measured hvalid hnamed moment.now hs positive known (measured p known)
  refine ⟨?_, ⟨?_, ?_⟩, ComplianceGate.evaluate_of_invalid, ComplianceGate.evaluate_of_unnamed,
    ComplianceGate.evaluate_of_unknown, fun p known => ⟨fun hvalid hnamed => hknown hvalid hnamed p known,
    fun history hreflects later => hreflects.settled later⟩⟩
  · simp only [perform, Operation.action, Action.on_bind, Action.on_get, Action.on_lift]
    show _ = (e, (e.gate.evaluate merchant amount usdEquivalent payer moment.now).map Answer.verdict)
    cases e.gate.evaluate merchant amount usdEquivalent payer moment.now <;> rfl
  · rintro ⟨result, hresult⟩
    have hvalid : valid := by
      by_contra hinvalid
      obtain ⟨_, _, -, -, hrefused⟩ := ComplianceGate.evaluate_of_invalid hinvalid
      cases hresult.symm.trans hrefused
    have hnamed : named := by
      by_contra hunnamed
      cases hresult.symm.trans (ComplianceGate.evaluate_of_unnamed hvalid hunnamed)
    cases hprofile : e.gate.profile? merchant with
    | none => cases hresult.symm.trans (ComplianceGate.evaluate_of_unknown hvalid hnamed hprofile)
    | some p =>
      obtain ⟨left, -, -, hrefused⟩ := hknown hvalid hnamed p hprofile
      refine ⟨hvalid, hnamed, p, rfl, ?_⟩
      by_contra hexceeded
      obtain ⟨_, -, hrefused⟩ := hrefused hexceeded
      cases hresult.symm.trans hrefused
  · rintro ⟨hvalid, hnamed, p, hprofile, hallows⟩
    obtain ⟨left, -, hok, -⟩ := hknown hvalid hnamed p hprofile
    exact ⟨_, hok hallows⟩

/-- On the day after, 490 million of a month's 500 million being settled, the last 10 million are admitted, and nothing
beyond them. -/
theorem month_cap_binds_on_next_day :
    let p : ComplianceProfile := ⟨⟨1⟩, .basic, .ofNat 50000000, .ofNat 490000000, Instant.epoch.day⟩
    let e : Engine := { opened .default with gate := (opened .default).gate.setProfile ⟨1⟩ p }
    let rest := Decimal.ofNat 10000000
    rest.Positive ∧ (∀ q, e.gate.profile? ⟨1⟩ = some q → q.Measured 2 (e.gate.tiers.limits q.tier)) ∧
      (∃ result, e.gate.evaluate ⟨1⟩ rest .zero none ComplianceGate.midnight = .ok result) ∧
      ¬ ∃ result, e.gate.evaluate ⟨1⟩ (.ofParts 1000000001 2) .zero none ComplianceGate.midnight = .ok result := by
  intro p e rest
  have hknown : e.gate.profile? ⟨1⟩ = some p := rfl
  have hlimits : e.gate.tiers.limits p.tier = .capped (.ofNat 50000000) (.ofNat 500000000) := rfl
  have hmonth : p.settledInMonth ComplianceGate.midnight.day = 490000000 := by
    rw [ComplianceProfile.settledInMonth, if_pos (by decide), Decimal.toRat_ofNat]
    norm_num
  have hday : p.settledOn ComplianceGate.midnight.day = 0 := if_neg (by decide)
  have hmeasured : ∀ q, e.gate.profile? ⟨1⟩ = some q → q.Measured 2 (e.gate.tiers.limits q.tier) := by
    intro q hq
    cases hq.symm.trans hknown
    rw [hlimits]
    refine ⟨.ofNat (by norm_num), .ofNat (by norm_num), ?_, ?_⟩
    · rintro _ ⟨⟩
      exact .ofNat (by norm_num)
    · rintro _ ⟨⟩
      exact .ofNat (by norm_num)
  have hadmits {amount : Decimal} (positive : amount.Positive) :
      (∃ result, e.gate.evaluate ⟨1⟩ amount .zero none ComplianceGate.midnight = .ok result) ↔
        amount.toRat ≤ 10000000 := by
    obtain ⟨-, hiff, -⟩ := first_unmet_condition_refuses e ⟨ComplianceGate.midnight, {}⟩ ⟨1⟩ .zero none (by decide)
      positive hmeasured
    rw [hiff]
    constructor
    · rintro ⟨-, -, q, hq, hallows⟩
      cases hq.symm.trans hknown
      have hcap := hallows.monthly (.ofNat 500000000) rfl
      rw [hmonth, Decimal.toRat_ofNat] at hcap
      norm_num at hcap
      linarith
    · intro hle
      refine ⟨fun _ => nofun, .inl (by decide), p, hknown, ?_, ?_⟩
      · rintro _ ⟨⟩
        rw [hday, Decimal.toRat_ofNat]
        norm_num
        linarith
      · rintro _ ⟨⟩
        rw [hmonth, Decimal.toRat_ofNat]
        norm_num
        linarith
  refine ⟨by decide, hmeasured, (hadmits (by decide)).mpr ?_, fun h => absurd ((hadmits (by decide)).mp h) ?_⟩
  · rw [Decimal.toRat_ofNat]
    norm_num
  · norm_num [Decimal.toRat, Decimal.ofParts]

end Engine
end Settlement
