import Settlement.Compliance.Gate

/-! What the operations of the gate do to the profiles of merchants. Only a recorded amount changes
the volumes of a profile that exists. -/
namespace Settlement
namespace ComplianceGate

variable {g next : ComplianceGate} {merchant other : MerchantId} {tier : KycTier} {now : Instant} {amount : Decimal}
  {p q : ComplianceProfile}

theorem profile?_setProfile (g : ComplianceGate) (merchant other : MerchantId) (p : ComplianceProfile) :
    (g.setProfile merchant p).profile? other = if other = merchant then some p else g.profile? other :=
  g.profiles.get?_insert merchant other p

/-- Every profile is kept up to its tier, and what is new has been opened at `now`. -/
structure Retains (g next : ComplianceGate) (now : Instant) : Prop where
  kept : ∀ merchant p, g.profile? merchant = some p → ∃ tier, next.profile? merchant = some { p with tier }
  opened : ∀ merchant, g.profile? merchant = none →
    next.profile? merchant = none ∨ ∃ tier, next.profile? merchant = some (.opened merchant tier now)

theorem Retains.refl (g : ComplianceGate) (now : Instant) : g.Retains g now :=
  ⟨fun _ p hp => ⟨p.tier, hp⟩, fun _ hp => .inl hp⟩

theorem Retains.profile_origin (h : g.Retains next now) (hq : next.profile? merchant = some q) :
    (∃ p tier, g.profile? merchant = some p ∧ q = { p with tier }) ∨
      g.profile? merchant = none ∧ ∃ tier, q = .opened merchant tier now := by
  cases hp : g.profile? merchant with
  | some p =>
    obtain ⟨tier, htier⟩ := h.kept merchant p hp
    cases hq.symm.trans htier
    exact .inl ⟨p, tier, rfl, rfl⟩
  | none =>
    obtain hnone | ⟨tier, hopened⟩ := h.opened merchant hp
    · cases hq.symm.trans hnone
    · cases hq.symm.trans hopened
      exact .inr ⟨rfl, tier, rfl⟩

theorem retains_setProfile (hkept : ∀ p, g.profile? merchant = some p → ∃ tier, q = { p with tier })
    (hopened : g.profile? merchant = none → ∃ tier, q = .opened merchant tier now) :
    g.Retains (g.setProfile merchant q) now := by
  constructor
  · intro other p hp
    rw [profile?_setProfile]
    by_cases ho : other = merchant
    · obtain ⟨tier, rfl⟩ := hkept p (ho ▸ hp)
      exact ⟨tier, if_pos ho⟩
    · exact ⟨p.tier, (if_neg ho).trans hp⟩
  · intro other hother
    rw [profile?_setProfile]
    by_cases ho : other = merchant
    · obtain ⟨tier, rfl⟩ := hopened (ho ▸ hother)
      exact .inr ⟨tier, by rw [if_pos ho, ho]⟩
    · exact .inl ((if_neg ho).trans hother)

theorem retains_register (g : ComplianceGate) (merchant : MerchantId) (tier : KycTier) (now : Instant) :
    g.Retains (g.register merchant tier now) now := by
  unfold register
  cases hknown : g.profile? merchant with
  | some p => exact .refl g now
  | none => exact retains_setProfile (fun p hp => by cases hp.symm.trans hknown) fun _ => ⟨tier, rfl⟩

theorem setTier_eq_ok :
    g.setTier merchant tier = .ok next ↔
      ∃ p, g.profile? merchant = some p ∧ g.setProfile merchant { p with tier } = next := by
  simp only [setTier, bind_eq_ok, require_eq_ok, pure, Except.pure, Except.ok.injEq]

theorem retains_setTier (h : g.setTier merchant tier = .ok next) (now : Instant) : g.Retains next now := by
  obtain ⟨p, hknown, rfl⟩ := setTier_eq_ok.mp h
  refine retains_setProfile (fun q hq => ?_) fun hnone => by cases hnone.symm.trans hknown
  cases hq.symm.trans hknown
  exact ⟨tier, rfl⟩

theorem recordVolume_of_profile (known : g.profile? merchant = some p) (amount : Decimal) (now : Instant) :
    g.recordVolume merchant amount now =
      (g.setProfile merchant (p.addVolume amount now).1, (p.addVolume amount now).2) := by
  rw [recordVolume, known]

theorem isSome_profile?_recordVolume (h : (g.profile? other).isSome) :
    ((g.recordVolume merchant amount now).1.profile? other).isSome := by
  cases hknown : g.profile? merchant with
  | none =>
    rw [recordVolume, hknown]
    exact h
  | some p =>
    rw [recordVolume_of_profile hknown, profile?_setProfile]
    split
    · rfl
    · exact h

theorem Retains.isSome_profile? (h : g.Retains next now) (hm : (g.profile? merchant).isSome) :
    (next.profile? merchant).isSome := by
  obtain ⟨p, hp⟩ := Option.isSome_iff_exists.mp hm
  obtain ⟨tier, hkept⟩ := h.kept merchant p hp
  exact Option.isSome_of_eq_some hkept

theorem isSome_profile?_of_evaluate {usdEquivalent : Decimal} {payer : Option PayerIdentity} {result : GateResult}
    (h : g.evaluate merchant amount usdEquivalent payer now = .ok result) : (g.profile? merchant).isSome := by
  simp only [evaluate, remaining, bind_eq_ok, require_eq_ok] at h
  obtain ⟨-, -, -, -, -, ⟨p, hp, -⟩, -⟩ := h
  exact Option.isSome_of_eq_some hp

end ComplianceGate
end Settlement
