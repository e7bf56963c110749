import Settlement.Proofs.Compliance.Gate
import Settlement.Proofs.Compliance.Volume
import Settlement.Proofs.Decimal.Monotone

/-! Settlements that are recorded in either order. A profile belongs to the day of the settlement that
was recorded last, so an earlier one that is recorded late takes it back, and what the later one has
added to its own day, or month, is lost. -/
namespace Settlement
namespace ComplianceProfile

open Decimal

variable {p q r : ComplianceProfile} {a b : Decimal} {now s t : Instant}

/-- All sums that recording both amounts can form are decimals. -/
def RoomFor (p : ComplianceProfile) (a b : Decimal) : Prop :=
  ∀ v ∈ [zero, p.dailyVolume, p.monthlyVolume],
    Representable (v.toRat + a.toRat) ∧ Representable (v.toRat + b.toRat) ∧
      Representable (v.toRat + a.toRat + b.toRat)

theorem RoomFor.symm (h : p.RoomFor a b) : p.RoomFor b a := by
  intro v hv
  obtain ⟨ha, hb, hboth⟩ := h v hv
  exact ⟨hb, ha, add_right_comm v.toRat b.toRat a.toRat ▸ hboth⟩

theorem dailyVolumeAt_mem (p : ComplianceProfile) (now : Instant) :
    p.dailyVolumeAt now ∈ [zero, p.dailyVolume, p.monthlyVolume] := by
  unfold dailyVolumeAt
  split <;> simp

theorem monthlyVolumeAt_mem (p : ComplianceProfile) (now : Instant) :
    p.monthlyVolumeAt now ∈ [zero, p.dailyVolume, p.monthlyVolume] := by
  unfold monthlyVolumeAt
  split <;> simp

theorem addVolume_of_representable (hdaily : Representable ((p.dailyVolumeAt now).toRat + a.toRat))
    (hmonthly : Representable ((p.monthlyVolumeAt now).toRat + a.toRat)) :
    ∃ q, p.addVolume a now = (q, .ok ()) ∧ q.tier = p.tier ∧ q.day = now.day ∧
      q.dailyVolume.toRat = (p.dailyVolumeAt now).toRat + a.toRat ∧
      q.monthlyVolume.toRat = (p.monthlyVolumeAt now).toRat + a.toRat := by
  obtain ⟨daily, hd, hdv⟩ := add?_of_representable hdaily
  obtain ⟨monthly, hm, hmv⟩ := add?_of_representable hmonthly
  exact ⟨_, addVolume_eq_ok.mpr ⟨daily, monthly, hd, hm, rfl⟩, rfl, rfl, hdv, hmv⟩

theorem toRat_dailyVolumeAt (p : ComplianceProfile) (now : Instant) :
    (p.dailyVolumeAt now).toRat = if now.day = p.day then p.dailyVolume.toRat else 0 := by
  rw [dailyVolumeAt, apply_ite toRat, toRat_zero]

theorem toRat_monthlyVolumeAt (p : ComplianceProfile) (now : Instant) :
    (p.monthlyVolumeAt now).toRat = if now.day.SameMonth p.day then p.monthlyVolume.toRat else 0 := by
  rw [monthlyVolumeAt, apply_ite toRat, toRat_zero]

structure CountsBoth (p : ComplianceProfile) (a : Decimal) (s : Instant) (b : Decimal) (t : Instant)
    (q : ComplianceProfile) : Prop where
  tier_eq : q.tier = p.tier
  day_eq : q.day = t.day
  daily_eq : q.dailyVolume.toRat = (if t.day = s.day then (p.dailyVolumeAt s).toRat + a.toRat else 0) + b.toRat
  monthly_eq : q.monthlyVolume.toRat =
    (if t.day.SameMonth s.day then (p.monthlyVolumeAt s).toRat + a.toRat else 0) + b.toRat

theorem addVolume_both (room : p.RoomFor a b) (s t : Instant) :
    ∃ first q, p.addVolume a s = (first, .ok ()) ∧ first.addVolume b t = (q, .ok ()) ∧ p.CountsBoth a s b t q := by
  obtain ⟨hdaily, -, hdailyBoth⟩ := room _ (p.dailyVolumeAt_mem s)
  obtain ⟨hmonthly, -, hmonthlyBoth⟩ := room _ (p.monthlyVolumeAt_mem s)
  obtain ⟨-, hzero, -⟩ := room zero List.mem_cons_self
  rw [toRat_zero] at hzero
  obtain ⟨first, hfirst, htier, hday, hd, hm⟩ := addVolume_of_representable hdaily hmonthly
  have hdt := first.toRat_dailyVolumeAt t
  have hmt := first.toRat_monthlyVolumeAt t
  rw [hday, hd] at hdt
  rw [hday, hm] at hmt
  have hdaily' : Representable ((first.dailyVolumeAt t).toRat + b.toRat) := by
    rw [hdt]
    split <;> assumption
  have hmonthly' : Representable ((first.monthlyVolumeAt t).toRat + b.toRat) := by
    rw [hmt]
    split <;> assumption
  obtain ⟨q, hq, htier', hday', hd', hm'⟩ := addVolume_of_representable hdaily' hmonthly'
  exact ⟨first, q, hfirst, hq, htier'.trans htier, hday', hdt ▸ hd', hmt ▸ hm'⟩

/-- What is read after two amounts, of which each starts a new period unless it falls into the one before, does
not depend on their order just if they fall into one period, or the reading into neither. -/
theorem readings_agree_iff {same : Day → Day → Prop} [DecidableRel same] (equiv : Equivalence same) {n s t : Day}
    {u v x y : ℚ} (hx : 0 < x) (hy : 0 < y) (huv : same s t → u = v) :
    (if same n t then (if same t s then u + x else 0) + y else 0) =
        (if same n s then (if same s t then v + y else 0) + x else 0) ↔
      same s t ∨ ¬ same n s ∧ ¬ same n t := by
  by_cases hst : same s t
  · have hread : same n t ↔ same n s := ⟨(equiv.trans · (equiv.symm hst)), (equiv.trans · hst)⟩
    simp only [hst, equiv.symm hst, hread, huv hst, add_right_comm, if_true, true_or]
  · have hts : ¬ same t s := fun h => hst (equiv.symm h)
    simp only [hst, hts, if_false, zero_add, false_or]
    by_cases hs : same n s
    · have ht : ¬ same n t := fun h => hst (equiv.trans (equiv.symm hs) h)
      simp [hs, ht, hx.ne]
    · by_cases ht : same n t <;> simp [hs, ht, hy.ne']

/-! ## Both orders -/

section

variable (hq : p.CountsBoth a s b t q) (hr : p.CountsBoth b t a s r) (ha : a.Positive) (hb : b.Positive)
include hq hr ha hb

theorem CountsBoth.daily_agree_iff (now : Instant) :
    (q.dailyVolumeAt now).SameValue (r.dailyVolumeAt now) ↔
      s.day = t.day ∨ now.day ≠ s.day ∧ now.day ≠ t.day := by
  rw [sameValue_iff_toRat, toRat_dailyVolumeAt, toRat_dailyVolumeAt, hq.day_eq, hr.day_eq, hq.daily_eq, hr.daily_eq]
  refine readings_agree_iff eq_equivalence (positive_iff_toRat.mp ha) (positive_iff_toRat.mp hb) fun hday => ?_
  rw [toRat_dailyVolumeAt, toRat_dailyVolumeAt, hday]

theorem CountsBoth.monthly_agree_iff (now : Instant) :
    (q.monthlyVolumeAt now).SameValue (r.monthlyVolumeAt now) ↔
      s.day.SameMonth t.day ∨ ¬ now.day.SameMonth s.day ∧ ¬ now.day.SameMonth t.day := by
  rw [sameValue_iff_toRat, toRat_monthlyVolumeAt, toRat_monthlyVolumeAt, hq.day_eq, hr.day_eq, hq.monthly_eq,
    hr.monthly_eq]
  refine readings_agree_iff ⟨Day.SameMonth.refl, .symm, .trans⟩ (positive_iff_toRat.mp ha) (positive_iff_toRat.mp hb)
    fun hmonth => ?_
  have hprofile : s.day.SameMonth p.day ↔ t.day.SameMonth p.day := ⟨hmonth.symm.trans, hmonth.trans⟩
  simp only [toRat_monthlyVolumeAt, hprofile]

end

/-! ## Limits -/

theorem left_congr (limit : Option Decimal) {v w : Decimal} (h : v.SameValue w) :
    (left limit v).map (Option.map toRat) = (left limit w).map (Option.map toRat) := by
  cases limit with
  | none => rfl
  | some limit =>
    have hvalue (o : Option Decimal) :
        ((unguarded o).map some).map (Option.map toRat) = (unguarded (o.map toRat)).map some := by
      cases o <;> rfl
    simp only [left, hvalue, toRat_sub?_congr rfl (sameValue_iff_toRat.mp h)]

theorem remainingLimit_toRat (p : ComplianceProfile) (limits : TierLimits) (now : Instant) :
    (p.remainingLimit limits now).map (Option.map toRat) = do
      let daily ← (left limits.daily (p.dailyVolumeAt now)).map (Option.map toRat)
      let monthly ← (left limits.monthly (p.monthlyVolumeAt now)).map (Option.map toRat)
      return match daily, monthly with
        | some d, some m => some (max (min d m) 0)
        | some d, none => some (max d 0)
        | none, some m => some (max m 0)
        | none, none => none := by
  unfold remainingLimit
  rcases left limits.daily (p.dailyVolumeAt now) with fault | daily
  · rfl
  rcases left limits.monthly (p.monthlyVolumeAt now) with fault | monthly
  · rfl
  have hlarger (d : Decimal) : max d.toRat 0 = (d.larger zero).toRat := by rw [toRat_larger, toRat_zero]
  rcases daily with _ | d <;> rcases monthly with _ | m <;> simp only [Except.map, Option.map, bind, Except.bind, pure,
    Except.pure, hlarger, ← toRat_smaller]

theorem remainingLimit_congr (hdaily : (q.dailyVolumeAt now).SameValue (r.dailyVolumeAt now))
    (hmonthly : (q.monthlyVolumeAt now).SameValue (r.monthlyVolumeAt now)) (limits : TierLimits) :
    (q.remainingLimit limits now).map (Option.map toRat) = (r.remainingLimit limits now).map (Option.map toRat) := by
  rw [remainingLimit_toRat, remainingLimit_toRat, left_congr limits.daily hdaily, left_congr limits.monthly hmonthly]

end ComplianceProfile

namespace ComplianceGate

open Decimal

variable {g next : ComplianceGate} {merchant : MerchantId} {p q r : ComplianceProfile} {a b : Decimal}
  {s t : Instant}

def recordAll (g : ComplianceGate) (merchant : MerchantId) : List (Decimal × Instant) → Except Fault ComplianceGate
  | [] => .ok g
  | (amount, now) :: rest =>
    match g.recordVolume merchant amount now with
    | (next, .ok ()) => next.recordAll merchant rest
    | (_, .error fault) => .error fault

theorem recordAll_cons (known : g.profile? merchant = some p) (counted : p.addVolume a s = (q, .ok ()))
    (rest : List (Decimal × Instant)) :
    g.recordAll merchant ((a, s) :: rest) = (g.setProfile merchant q).recordAll merchant rest := by
  rw [recordAll, recordVolume_of_profile known, counted]

theorem recordAll_both (known : g.profile? merchant = some p) (room : p.RoomFor a b) (s t : Instant) :
    ∃ next q, g.recordAll merchant [(a, s), (b, t)] = .ok next ∧ next.tiers = g.tiers ∧
      next.profile? merchant = some q ∧ p.CountsBoth a s b t q := by
  obtain ⟨first, q, hfirst, hq, hboth⟩ := ComplianceProfile.addVolume_both room s t
  have hknown : (g.setProfile merchant first).profile? merchant = some first := by
    rw [profile?_setProfile, if_pos rfl]
  refine ⟨(g.setProfile merchant first).setProfile merchant q, q, ?_, rfl, ?_, hboth⟩
  · rw [recordAll_cons known hfirst, recordAll_cons hknown hq, recordAll]
  · rw [profile?_setProfile, if_pos rfl]

/-- Two settlements can be recorded in either order. What is read of the day then is the same just if they fall on one
day, or the time of reading on neither of their days; of the month likewise. Where both are the same, so is the
allowance. -/
theorem orders_agree_iff_one_period (known : g.profile? merchant = some p) (ha : a.Positive) (hb : b.Positive)
    (room : p.RoomFor a b) (s t : Instant) :
    ∃ first second q r, g.recordAll merchant [(a, s), (b, t)] = .ok first ∧ first.profile? merchant = some q ∧
      g.recordAll merchant [(b, t), (a, s)] = .ok second ∧ second.profile? merchant = some r ∧
      ∀ now,
        ((q.dailyVolumeAt now).SameValue (r.dailyVolumeAt now) ↔
          s.day = t.day ∨ now.day ≠ s.day ∧ now.day ≠ t.day) ∧
        ((q.monthlyVolumeAt now).SameValue (r.monthlyVolumeAt now) ↔
          s.day.SameMonth t.day ∨ ¬ now.day.SameMonth s.day ∧ ¬ now.day.SameMonth t.day) ∧
        ((q.dailyVolumeAt now).SameValue (r.dailyVolumeAt now) →
          (q.monthlyVolumeAt now).SameValue (r.monthlyVolumeAt now) →
          (first.remaining merchant now).map (Option.map toRat) =
            (second.remaining merchant now).map (Option.map toRat)) := by
  obtain ⟨first, q, hfirst, htiers, hknown, hq⟩ := recordAll_both known room s t
  obtain ⟨second, r, hsecond, htiers', hknown', hr⟩ := recordAll_both known room.symm t s
  refine ⟨first, second, q, r, hfirst, hknown, hsecond, hknown', fun now => ⟨hq.daily_agree_iff hr ha hb now,
    hq.monthly_agree_iff hr ha hb now, fun hdaily hmonthly => ?_⟩⟩
  have hremaining : first.remaining merchant now = q.remainingLimit (g.tiers.limits p.tier) now := by
    rw [remaining, hknown, htiers, hq.tier_eq.symm]
    rfl
  have hremaining' : second.remaining merchant now = r.remainingLimit (g.tiers.limits p.tier) now := by
    rw [remaining, hknown', htiers', hr.tier_eq.symm]
    rfl
  rw [hremaining, hremaining']
  exact ComplianceProfile.remainingLimit_congr hdaily hmonthly _

def basic : ComplianceGate := (opened .default .zero).register ⟨1⟩ .basic .epoch

def lastSecond : Instant := ⟨86399, 0, by decide, by decide, by decide⟩

def midnight : Instant := ⟨86400, 0, by decide, by decide, by decide⟩

/-- Two settlements across midnight: the month does not depend on their order, the new day does. -/
theorem month_agrees_across_midnight :
    let p := ComplianceProfile.opened ⟨1⟩ .basic .epoch
    let a := Decimal.ofNat 30000000
    let b := Decimal.ofNat 20000000
    basic.profile? ⟨1⟩ = some p ∧ a.Positive ∧ b.Positive ∧ p.RoomFor a b ∧
      ∃ first second q r, basic.recordAll ⟨1⟩ [(a, lastSecond), (b, midnight)] = .ok first ∧
        first.profile? ⟨1⟩ = some q ∧ basic.recordAll ⟨1⟩ [(b, midnight), (a, lastSecond)] = .ok second ∧
        second.profile? ⟨1⟩ = some r ∧ (q.monthlyVolumeAt midnight).SameValue (r.monthlyVolumeAt midnight) ∧
        ¬ (q.dailyVolumeAt midnight).SameValue (r.dailyVolumeAt midnight) := by
  intro p a b
  have hroom : p.RoomFor a b := by
    intro v hv
    have hzero : v = .zero := by simpa [p, ComplianceProfile.opened] using hv
    rw [hzero, toRat_zero, zero_add, zero_add]
    refine ⟨⟨a, rfl⟩, ⟨b, rfl⟩, ⟨.ofNat 50000000, ?_⟩⟩
    norm_num [a, b]
  have hknown : basic.profile? ⟨1⟩ = some p := rfl
  have ha : a.Positive := by decide
  have hb : b.Positive := by decide
  obtain ⟨first, second, q, r, hfirst, hq, hsecond, hr, hreads⟩ :=
    orders_agree_iff_one_period hknown ha hb hroom lastSecond midnight
  obtain ⟨hdaily, hmonthly, -⟩ := hreads midnight
  exact ⟨hknown, ha, hb, hroom, first, second, q, r, hfirst, hq, hsecond, hr, hmonthly.mpr (by decide),
    fun h => absurd (hdaily.mp h) (by decide)⟩

/-- Recorded late, the settlement of the old day frees the limit of the new one. -/
theorem late_record_frees_limit :
    let a := Decimal.ofNat 30000000
    let b := Decimal.ofNat 20000000
    lastSecond ≤ midnight ∧ (∀ p, basic.profile? ⟨1⟩ = some p → p.day ≤ lastSecond.day ∧ p.day ≤ midnight.day) ∧
      (basic.recordAll ⟨1⟩ [(a, lastSecond), (b, midnight)] >>= (·.remaining ⟨1⟩ midnight)) =
        .ok (some (.ofNat 30000000)) ∧
      (basic.recordAll ⟨1⟩ [(b, midnight), (a, lastSecond)] >>= (·.remaining ⟨1⟩ midnight)) =
        .ok (some (.ofNat 50000000)) := by
  refine ⟨by decide, ?_, by decide +kernel, by decide +kernel⟩
  rintro p ⟨⟩
  decide

end ComplianceGate
end Settlement
