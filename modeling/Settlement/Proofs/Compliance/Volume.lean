import Settlement.Compliance.Profile
import Settlement.Proofs.Decimal.Value
import Settlement.Proofs.Time.Month

/-! What the volumes of a profile say about the settlements that were counted. As long as these
are counted in the order of time, the volumes that are read at any later time are the sums
over its day and its month. -/
namespace Settlement
namespace ComplianceProfile

open Decimal

variable {p q : ComplianceProfile} {amount : Decimal} {now : Instant} {history : List (Decimal × Day)}

/-- Counting an amount adds it to what is read at that time, and starts the day of that time. -/
theorem addVolume_eq_ok :
    p.addVolume amount now = (q, .ok ()) ↔
      ∃ daily monthly, (p.dailyVolumeAt now).add? amount = some daily ∧
        (p.monthlyVolumeAt now).add? amount = some monthly ∧
        q = { p with dailyVolume := daily, monthlyVolume := monthly, day := now.day } := by
  unfold addVolume
  cases (p.dailyVolumeAt now).add? amount with
  | none => simp
  | some daily =>
    cases (p.monthlyVolumeAt now).add? amount with
    | none => simp
    | some monthly => simp [eq_comm]

theorem addVolume_snd (p : ComplianceProfile) (amount : Decimal) (now : Instant) :
    (p.addVolume amount now).2 = .ok () ∨ (p.addVolume amount now).2 = .error .overflow := by
  unfold addVolume
  cases (p.dailyVolumeAt now).add? amount with
  | none => exact .inr rfl
  | some daily =>
    cases (p.monthlyVolumeAt now).add? amount with
    | none => exact .inr rfl
    | some monthly => exact .inl rfl

def amountsOn (days : Day → Prop) [DecidablePred days] (history : List (Decimal × Day)) : List Decimal :=
  (history.filter fun s => days s.2).map Prod.fst

/-- The volumes are those of a history of amounts and their days, which ends on the day of the profile or before. -/
structure Reflects (p : ComplianceProfile) (history : List (Decimal × Day)) : Prop where
  day_le : ∀ s ∈ history, s.2 ≤ p.day
  daily_eq : sum? (amountsOn (· = p.day) history) = some p.dailyVolume
  monthly_eq : sum? (amountsOn (·.SameMonth p.day) history) = some p.monthlyVolume

section

variable {days : Day → Prop} [DecidablePred days]

theorem amountsOn_concat (amount : Decimal) (day : Day) :
    amountsOn days (history ++ [(amount, day)]) = amountsOn days history ++ if days day then [amount] else [] := by
  by_cases h : days day <;> simp [amountsOn, h]

theorem amountsOn_congr {others : Day → Prop} [DecidablePred others] (h : ∀ s ∈ history, days s.2 ↔ others s.2) :
    amountsOn days history = amountsOn others history :=
  congrArg (List.map Prod.fst) (List.filter_congr fun s hs => decide_eq_decide.mpr (h s hs))

theorem amountsOn_eq_nil (h : ∀ s ∈ history, ¬ days s.2) : amountsOn days history = [] := by
  rw [amountsOn, List.filter_eq_nil_iff.mpr fun s hs => by simpa using h s hs, List.map_nil]

end

theorem reflects_opened (merchant : MerchantId) (tier : KycTier) (now : Instant) :
    (opened merchant tier now).Reflects [] :=
  ⟨fun _ => nofun, rfl, rfl⟩

/-- A profile that reflects a history is read as the sums over the day and the month of any later time. -/
theorem Reflects.read (h : p.Reflects history) (later : p.day ≤ now.day) :
    sum? (amountsOn (· = now.day) history) = some (p.dailyVolumeAt now) ∧
      sum? (amountsOn (·.SameMonth now.day) history) = some (p.monthlyVolumeAt now) := by
  constructor
  · by_cases hday : now.day = p.day
    · rw [dailyVolumeAt, if_pos hday, hday, h.daily_eq]
    · rw [dailyVolumeAt, if_neg hday, amountsOn_eq_nil]
      · rfl
      · rintro s hs hsame
        exact hday (Day.le_antisymm (hsame ▸ h.day_le s hs) later)
  · by_cases hmonth : now.day.SameMonth p.day
    · rw [monthlyVolumeAt, if_pos hmonth, ← h.monthly_eq]
      exact congrArg sum? (amountsOn_congr fun s _ => ⟨(·.trans hmonth), (·.trans hmonth.symm)⟩)
    · rw [monthlyVolumeAt, if_neg hmonth, amountsOn_eq_nil]
      · rfl
      · rintro s hs hsame
        exact hmonth (hsame.between (h.day_le s hs) later).symm

theorem Reflects.addVolume (h : p.Reflects history) (later : p.day ≤ now.day)
    (counted : p.addVolume amount now = (q, .ok ())) : q.Reflects (history ++ [(amount, now.day)]) := by
  obtain ⟨daily, monthly, hdaily, hmonthly, rfl⟩ := addVolume_eq_ok.mp counted
  obtain ⟨hd, hm⟩ := h.read later
  refine ⟨?_, ?_, ?_⟩
  · rw [List.forall_mem_append, List.forall_mem_singleton]
    exact ⟨fun s hs => Day.le_trans (h.day_le s hs) later, Day.le_refl _⟩
  · rw [amountsOn_concat, if_pos rfl, sum?_concat, hd]
    exact hdaily
  · rw [amountsOn_concat, if_pos (Day.SameMonth.refl _), sum?_concat, hm]
    exact hmonthly

end ComplianceProfile
end Settlement
