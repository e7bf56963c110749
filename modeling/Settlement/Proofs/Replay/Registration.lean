import Settlement.Proofs.Replay.Agreement

/-! Registering a merchant under a label shows nowhere but in the labels. What looks as before agrees as before. -/
namespace Settlement
namespace Engine

variable {π : Comparison} {tier : KycTier} {l l' k k' : Labels} {e e' next next' : Engine} {m : MerchantId} {label : String}

/-- An engine that looks as before. Labels may have been added. -/
structure Looks (tier : KycTier) (l k : Labels) (e next : Engine) : Prop where
  sound : next.Sound tier k
  terms : next.terms = e.terms
  known : ∀ {label m}, l.merchant? label = some m → k.merchant? label = some m
  amounts : ∀ label, next.amounts k label = e.amounts l label
  daily : ∀ label now, (next.profileOf k label).dailyVolumeAt now = (e.profileOf l label).dailyVolumeAt now
  monthly : ∀ label now, (next.profileOf k label).monthlyVolumeAt now = (e.profileOf l label).monthlyVolumeAt now
  payments : ∀ reference, next.paymentOf? reference = e.paymentOf? reference
  payouts : ∀ label, next.payoutOf? k label = e.payoutOf? l label

theorem Looks.refl (h : e.Sound tier l) : Looks tier l l e e :=
  ⟨h, rfl, id, fun _ => rfl, fun _ _ => rfl, fun _ _ => rfl, fun _ => rfl, fun _ => rfl⟩

theorem Agrees.of_looks (h : e.Agrees π l l' e') (left : Looks π.tier l k e next) (right : Looks π.tier l' k' e' next') :
    next.Agrees π k k' next' := by
  have hmerchant {m m' : MerchantId} (hm : SameMerchant l.merchant? l'.merchant? m m') :
      SameMerchant k.merchant? k'.merchant? m m' := by
    obtain ⟨label, hl, hl'⟩ := hm
    exact ⟨label, left.known hl, right.known hl'⟩
  have htiers : next.gate.tiers = e.gate.tiers := congrArg Terms.tiers left.terms
  exact {
    sound := left.sound
    sound' := right.sound
    terms := right.terms.trans (h.terms.trans left.terms.symm)
    daily := htiers ▸ h.daily
    monthly := htiers ▸ h.monthly
    amounts := fun label => by rw [left.amounts, right.amounts, h.amounts]
    volumes := fun label => {
      daily := fun hdaily {_ _} hnow => by rw [left.daily, right.daily, (h.volumes label).daily hdaily hnow]
      monthly := fun hmonthly {_ _} hnow => by
        rw [left.monthly, right.monthly, (h.volumes label).monthly hmonthly hnow] }
    payments := fun reference hquoted => by
      rw [left.payments, right.payments]
      exact rel_imp (h.payments reference hquoted) fun same => { same with merchant := hmerchant same.merchant }
    payouts := fun label => by
      rw [left.payouts, right.payouts]
      exact rel_imp (h.payouts label) fun same => { same with merchant := hmerchant same.merchant } }

/-! ## A new merchant -/

theorem registerMerchant_of_unknown (account : e.balance? m = none) (profile : e.gate.profile? m = none)
    (tier : KycTier) (now : Instant) : e.registerMerchant m tier now =
      { e.storeBalance m (.opened m now) with gate := e.gate.setProfile m (.opened m tier now) } := by
  have hledger : e.ledger.openAccount m now = (e.storeBalance m (.opened m now)).ledger := by
    unfold Ledger.openAccount
    rw [show e.ledger.balance? m = none from account]
    rfl
  have htier : e.gate.setTier m tier = .error (.refused .merchantNotFound) := by
    rw [ComplianceGate.setTier, profile]
    rfl
  have hgate : e.gate.register m tier now = e.gate.setProfile m (.opened m tier now) := by
    rw [ComplianceGate.register, profile]
  rw [registerMerchant, hledger, htier, hgate]
  rfl

/-- What is read through labels does not change if one more label is given to something that reads like nothing. -/
theorem bind_withMerchant {ν α : Type} {before after : MerchantId → Option ν} {value : ν} (read : Option ν → α)
    (unlabelled : l.merchant? label = none) (unknown : before m = none)
    (stored : ∀ {other i}, l.merchant? other = some i → (before i).isSome)
    (hafter : ∀ i, after i = if i = m then some value else before i) (blank : read (some value) = read none)
    (other : String) :
    read (((l.withMerchant label m).merchant? other).bind after) = read ((l.merchant? other).bind before) := by
  by_cases ho : other = label
  · subst ho
    rw [Labels.merchant?_withMerchant, if_pos rfl, unlabelled, Option.bind_some, Option.bind_none, hafter, if_pos rfl,
      blank]
  · rw [Labels.merchant?_withMerchant, if_neg ho]
    cases hi : l.merchant? other with
    | none => rfl
    | some i =>
      have hne : i ≠ m := by
        rintro rfl
        have hknown := stored hi
        rw [unknown] at hknown
        cases hknown
      rw [Option.bind_some, Option.bind_some, hafter, if_neg hne]

theorem looks_registerMerchant (h : e.Sound tier l) (unlabelled : l.merchant? label = none)
    (account : e.balance? m = none) (profile : e.gate.profile? m = none) (now : Instant) :
    Looks tier l (l.withMerchant label m) e (e.registerMerchant m tier now) := by
  have hbalance (other : MerchantId) : (e.registerMerchant m tier now).balance? other =
      if other = m then some (.opened m now) else e.balance? other := by
    rw [registerMerchant_of_unknown account profile]
    exact e.balance?_storeBalance m other _
  have hprofile (other : MerchantId) : (e.registerMerchant m tier now).gate.profile? other =
      if other = m then some (.opened m tier now) else e.gate.profile? other := by
    rw [registerMerchant_of_unknown account profile]
    exact e.gate.profile?_setProfile m other _
  have hunnamed {other : String} : l.merchant? other ≠ some m := by
    intro ho
    obtain ⟨row, hrow⟩ := h.account ho
    cases account.symm.trans hrow
  have hknown {other : String} {i : MerchantId} (hi : l.merchant? other = some i) :
      (l.withMerchant label m).merchant? other = some i := by
    rw [Labels.merchant?_withMerchant, if_neg, hi]
    rintro rfl
    cases unlabelled.symm.trans hi
  have hold {other : String} {i : MerchantId} (hi : (l.withMerchant label m).merchant? other = some i) (hne : i ≠ m) :
      l.merchant? other = some i := by
    rw [Labels.merchant?_withMerchant] at hi
    split at hi
    · exact absurd (Option.some.inj hi).symm hne
    · exact hi
  have haccount {other : String} {i : MerchantId} (hi : l.merchant? other = some i) : (e.balance? i).isSome :=
    Option.isSome_iff_exists.mpr (h.account hi)
  have hprofiled {other : String} {i : MerchantId} (hi : l.merchant? other = some i) : (e.gate.profile? i).isSome := by
    obtain ⟨p, hp, -⟩ := h.profile hi
    exact Option.isSome_of_eq_some hp
  have hvolume (read : ComplianceProfile → Instant → Decimal)
      (blank : ∀ t, read (.opened m tier now) t = read .blank t) (other : String) (t : Instant) :
      read ((e.registerMerchant m tier now).profileOf (l.withMerchant label m) other) t = read (e.profileOf l other) t :=
    bind_withMerchant (fun p => read (p.getD .blank) t) unlabelled profile hprofiled hprofile (blank t) other
  exact {
    sound := {
      distinct := ⟨fun ha hb => eq_of_ite_eq_some h.distinct.merchant hunnamed ha hb, h.distinct.payout⟩
      account := fun {other i} hi => by
        rw [hbalance]
        split
        · exact ⟨_, rfl⟩
        case isFalse hne => exact h.account (hold hi hne)
      profile := fun {other i} hi => by
        rw [hprofile]
        split
        · exact ⟨_, rfl, rfl⟩
        case isFalse hne => exact h.profile (hold hi hne)
      payout := h.payout
      leads := h.leads
      apart := h.apart }
    terms := by
      rw [registerMerchant_of_unknown account profile]
      rfl
    known := hknown
    amounts := bind_withMerchant (fun b => (b.map Balance.amounts).getD .zero) unlabelled account haccount
      hbalance rfl
    daily := hvolume ComplianceProfile.dailyVolumeAt fun t => (ite_self _).trans (ite_self _).symm
    monthly := hvolume ComplianceProfile.monthlyVolumeAt fun t => (ite_self _).trans (ite_self _).symm
    payments := fun _ => rfl
    payouts := fun _ => rfl }

end Engine
end Settlement
