import Settlement.Proofs.Replay.Labels

/-! Agreement of two engines. They are written alike and stay in agreement, or one of them overflows in a volume
that is not compared. -/
namespace Settlement

theorem rel_cases {α β : Type} {R : α → β → Prop} {x : Option α} {y : Option β} (h : Option.Rel R x y) :
    (x = none ∧ y = none) ∨ ∃ a b, x = some a ∧ y = some b ∧ R a b := by
  cases h with
  | none => exact .inl ⟨rfl, rfl⟩
  | some hab => exact .inr ⟨_, _, rfl, rfl, hab⟩

theorem rel_imp {α β : Type} {R S : α → β → Prop} {x : Option α} {y : Option β} (h : Option.Rel R x y)
    (himp : ∀ {a b}, R a b → S a b) : Option.Rel S x y := by
  cases h with
  | none => exact .none
  | some hab => exact .some (himp hab)

namespace Engine

open Engine.Action

structure SamePayment (π : Comparison) (names names' : String → Option MerchantId) (p p' : Payment) : Prop where
  alike : p.Alike π p'
  merchant : SameMerchant names names' p.merchantId p'.merchantId

structure SamePayout (names names' : String → Option MerchantId) (p p' : Payout) : Prop where
  alike : p.Alike p'
  merchant : SameMerchant names names' p.merchantId p'.merchantId

/-- Both engines are sound and are seen alike. -/
structure Agrees (π : Comparison) (l l' : Labels) (e e' : Engine) : Prop where
  sound : e.Sound π.tier l
  sound' : e'.Sound π.tier l'
  terms : e'.terms = e.terms
  daily : (e.gate.tiers.limits π.tier).daily.isSome → π.daily
  monthly : (e.gate.tiers.limits π.tier).monthly.isSome → π.monthly
  amounts : ∀ label, e'.amounts l' label = e.amounts l label
  volumes : ∀ label, (e.profileOf l label).Alike π (e'.profileOf l' label)
  payments : ∀ reference, π.quoted reference →
    Option.Rel (SamePayment π l.merchant? l'.merchant?) (e.paymentOf? reference) (e'.paymentOf? reference)
  payouts : ∀ label, Option.Rel (SamePayout l.merchant? l'.merchant?) (e.payoutOf? l label) (e'.payoutOf? l' label)

variable {π : Comparison} {l l' : Labels} {e e' : Engine} {m m' : MerchantId} {id id' : PaymentId} {now now' : Instant}
  {reference : PaymentReference} {label : String}

theorem agrees_of_empty (terms : e'.terms = e.terms) (daily : (e.gate.tiers.limits π.tier).daily.isSome → π.daily)
    (monthly : (e.gate.tiers.limits π.tier).monthly.isSome → π.monthly)
    (empty : ∀ reference, e.payments.references.get? reference = none)
    (empty' : ∀ reference, e'.payments.references.get? reference = none) :
    e.Agrees π ⟨fun _ => none, fun _ => none⟩ ⟨fun _ => none, fun _ => none⟩ e' := by
  have hsound {e : Engine} (empty : ∀ reference, e.payments.references.get? reference = none) :
      e.Sound π.tier ⟨fun _ => none, fun _ => none⟩ := by
    have hnone {reference : PaymentReference} {id : PaymentId} : e.payments.references.get? reference ≠ some id := by
      rw [empty]
      exact nofun
    exact ⟨⟨nofun, nofun⟩, nofun, nofun, nofun, fun hr => absurd hr hnone, fun hr _ => absurd hr hnone⟩
  exact {
    sound := hsound empty
    sound' := hsound empty'
    terms
    daily
    monthly
    amounts := fun _ => rfl
    volumes := fun _ => ⟨fun _ {_ _} _ => (ite_self _).trans (ite_self _).symm,
      fun _ {_ _} _ => (ite_self _).trans (ite_self _).symm⟩
    payments := fun reference _ => by
      rw [paymentOf?, paymentOf?, empty, empty']
      exact .none
    payouts := fun _ => .none }

/-! ## Reading -/

namespace Agrees

theorem config_eq (h : e.Agrees π l l' e') : e'.config = e.config := congrArg Terms.config h.terms

theorem policy_eq (h : e.Agrees π l l' e') : e'.policy = e.policy := by
  rw [policy, policy, h.config_eq]

theorem answers_rate (h : e.Agrees π l l' e') (pair : Exchange.CurrencyPair) :
    Answers (fun quote quote' => quote'.rate = quote.rate) (e.rates.rate pair) (e'.rates.rate pair) := by
  have hprice : (e'.rates.quotes.get? pair).map RateQuote.rate = (e.rates.quotes.get? pair).map RateQuote.rate :=
    congrFun (congrArg Terms.price h.terms) pair
  unfold RateTable.rate
  cases hq : e.rates.quotes.get? pair with
  | none =>
    rw [hq, Option.map_none, Option.map_eq_none_iff] at hprice
    rw [hprice]
    exact .error _
  | some quote =>
    rw [hq, Option.map_some, Option.map_eq_some_iff] at hprice
    obtain ⟨quote', hq', hrate⟩ := hprice
    rw [hq']
    exact .ok hrate

theorem balance? (h : e.Agrees π l l' e') (hm : SameMerchant l.merchant? l'.merchant? m m') :
    ∃ row row', e.balance? m = some row ∧ e'.balance? m' = some row' ∧ row'.amounts = row.amounts := by
  obtain ⟨label, hl, hl'⟩ := hm
  obtain ⟨row, hrow⟩ := h.sound.account hl
  obtain ⟨row', hrow'⟩ := h.sound'.account hl'
  have hamounts := h.amounts label
  rw [Engine.amounts, Engine.amounts, hl, hl', Option.bind_some, Option.bind_some, hrow, hrow'] at hamounts
  exact ⟨row, row', hrow, hrow', hamounts⟩

/-- A merchant with the same label has a profile of the same tier, whose volumes are read alike. -/
theorem profile? (h : e.Agrees π l l' e') (hm : SameMerchant l.merchant? l'.merchant? m m') :
    ∃ p p', e.gate.profile? m = some p ∧ e'.gate.profile? m' = some p' ∧ p.tier = π.tier ∧ p'.tier = π.tier ∧
      p.Alike π p' := by
  obtain ⟨label, hl, hl'⟩ := hm
  obtain ⟨p, hp, htier⟩ := h.sound.profile hl
  obtain ⟨p', hp', htier'⟩ := h.sound'.profile hl'
  have hvolumes := h.volumes label
  rw [Engine.profileOf, Engine.profileOf, hl, hl', Option.bind_some, Option.bind_some, hp, hp'] at hvolumes
  exact ⟨p, p', hp, hp', htier, htier', hvolumes⟩

theorem answers_locate (h : e.Agrees π l l' e') (hquoted : π.quoted reference) :
    Answers (fun id id' => ∃ p p', e.payments.references.get? reference = some id ∧
        e'.payments.references.get? reference = some id' ∧ e.payment? id = some p ∧ e'.payment? id' = some p' ∧
        SamePayment π l.merchant? l'.merchant? p p')
      (e.locate reference) (e'.locate reference) := by
  obtain ⟨hp, hp'⟩ | ⟨p, p', hp, hp', same⟩ := rel_cases (h.payments reference hquoted)
  · rw [locate, locate, h.sound.unlocated hp, h.sound'.unlocated hp']
    exact .error _
  · obtain ⟨id, hid, hp⟩ := Option.bind_eq_some_iff.mp hp
    obtain ⟨id', hid', hp'⟩ := Option.bind_eq_some_iff.mp hp'
    rw [locate, locate, hid, hid']
    exact .ok ⟨p, p', rfl, rfl, hp, hp', same⟩

theorem payout_cases (h : e.Agrees π l l' e') (label : String) :
    (l.payout? label = none ∧ l'.payout? label = none) ∨
      ∃ id id' p p', l.payout? label = some id ∧ l'.payout? label = some id' ∧ e.payout? id = some p ∧
        e'.payout? id' = some p' ∧ SamePayout l.merchant? l'.merchant? p p' := by
  obtain ⟨hp, hp'⟩ | ⟨p, p', hp, hp', same⟩ := rel_cases (h.payouts label)
  · exact .inl ⟨h.sound.unlabelled hp, h.sound'.unlabelled hp'⟩
  · obtain ⟨id, hid, hp⟩ := Option.bind_eq_some_iff.mp hp
    obtain ⟨id', hid', hp'⟩ := Option.bind_eq_some_iff.mp hp'
    exact .inr ⟨id, id', p, p', hid, hid', hp, hp', same⟩

/-! ## Writing -/

theorem storeBalance (h : e.Agrees π l l' e') (hm : SameMerchant l.merchant? l'.merchant? m m') {b b' : Balance}
    (hb : b'.amounts = b.amounts) : (e.storeBalance m b).Agrees π l l' (e'.storeBalance m' b') := by
  obtain ⟨label, hl, hl'⟩ := hm
  exact { h with
    sound := h.sound.storeBalance m b
    sound' := h.sound'.storeBalance m' b'
    amounts := fun other => by
      rw [amounts_storeBalance h.sound.distinct hl, amounts_storeBalance h.sound'.distinct hl', hb, h.amounts] }

theorem countVolume (h : e.Agrees π l l' e') (hm : SameMerchant l.merchant? l'.merchant? m m') {p p' : ComplianceProfile}
    (hp : e.gate.profile? m = some p) (hp' : e'.gate.profile? m' = some p') {amount : Decimal}
    (alike : (p.addVolume amount now).1.Alike π (p'.addVolume amount now').1) :
    (e.countVolume m amount now).Agrees π l l' (e'.countVolume m' amount now') := by
  obtain ⟨label, hl, hl'⟩ := hm
  have hterms {e : Engine} {m : MerchantId} {p : ComplianceProfile} (known : e.gate.profile? m = some p) (now : Instant) :
      (e.countVolume m amount now).terms = e.terms := by
    rw [Engine.countVolume, ComplianceGate.recordVolume_of_profile known]
    rfl
  have htiers : (e.countVolume m amount now).gate.tiers = e.gate.tiers := congrArg Terms.tiers (hterms hp now)
  exact { h with
    sound := h.sound.countVolume m amount now
    sound' := h.sound'.countVolume m' amount now'
    terms := (hterms hp' now').trans (h.terms.trans (hterms hp now).symm)
    daily := htiers ▸ h.daily
    monthly := htiers ▸ h.monthly
    volumes := fun other => by
      rw [profileOf_countVolume h.sound.distinct hl hp, profileOf_countVolume h.sound'.distinct hl' hp']
      split
      · exact alike
      · exact h.volumes other }

theorem storePayment (h : e.Agrees π l l' e') (located : e.payments.references.get? reference = some id)
    (located' : e'.payments.references.get? reference = some id') {p p' : Payment}
    (same : SamePayment π l.merchant? l'.merchant? p p') :
    (e.storePayment id p).Agrees π l l' (e'.storePayment id' p') :=
  { h with
    sound := h.sound.storePayment id p
    sound' := h.sound'.storePayment id' p'
    payments := fun other hother => by
      rw [paymentOf?_storePayment h.sound located, paymentOf?_storePayment h.sound' located']
      split
      · exact .some same
      · exact h.payments other hother }

theorem recordPayment (h : e.Agrees π l l' e') {p p' : Payment} (fresh : e.payment? p.id = none)
    (fresh' : e'.payment? p'.id = none) (same : SamePayment π l.merchant? l'.merchant? p p')
    (hreference : ∀ reference, π.quoted reference → (reference = p'.reference ↔ reference = p.reference)) :
    ((e.storePayment p.id p).indexPayment p.reference p.id).Agrees π l l'
      ((e'.storePayment p'.id p').indexPayment p'.reference p'.id) :=
  { h with
    sound := h.sound.recordPayment fresh
    sound' := h.sound'.recordPayment fresh'
    payments := fun reference hquoted => by
      rw [paymentOf?_recordPayment h.sound fresh, paymentOf?_recordPayment h.sound' fresh']
      by_cases hr : reference = p.reference
      · rw [if_pos hr, if_pos ((hreference reference hquoted).mpr hr)]
        exact .some same
      · rw [if_neg hr, if_neg (mt (hreference reference hquoted).mp hr)]
        exact h.payments reference hquoted }

theorem storePayout (h : e.Agrees π l l' e') {id id' : PayoutId} (hid : l.payout? label = some id)
    (hid' : l'.payout? label = some id') {p p' : Payout} (same : SamePayout l.merchant? l'.merchant? p p') :
    (e.storePayout id p).Agrees π l l' (e'.storePayout id' p') :=
  { h with
    sound := h.sound.storePayout id p
    sound' := h.sound'.storePayout id' p'
    payouts := fun other => by
      rw [payoutOf?_storePayout h.sound.distinct hid, payoutOf?_storePayout h.sound'.distinct hid']
      split
      · exact .some same
      · exact h.payouts other }

theorem openPayout (h : e.Agrees π l l' e') {id id' : PayoutId} (fresh : e.payout? id = none)
    (fresh' : e'.payout? id' = none) {p p' : Payout} (same : SamePayout l.merchant? l'.merchant? p p') (label : String) :
    (e.storePayout id p).Agrees π (l.withPayout label id) (l'.withPayout label id') (e'.storePayout id' p') :=
  { h with
    sound := h.sound.openPayout fresh p label
    sound' := h.sound'.openPayout fresh' p' label
    payouts := fun other => by
      rw [payoutOf?_openPayout h.sound fresh, payoutOf?_openPayout h.sound' fresh']
      split
      · exact .some same
      · exact h.payouts other }

theorem sweepExpired (h : e.Agrees π l l' e') (hnow : π.paired now now') :
    (e.sweepExpired ⟨now, {}⟩).1.Agrees π l l' (e'.sweepExpired ⟨now', {}⟩).1 :=
  { h with
    sound := h.sound.sweepExpired ⟨now, {}⟩
    sound' := h.sound'.sweepExpired ⟨now', {}⟩
    payments := fun reference hquoted => by
      rw [paymentOf?_sweepExpired, paymentOf?_sweepExpired]
      obtain ⟨hp, hp'⟩ | ⟨p, p', hp, hp', same⟩ := rel_cases (h.payments reference hquoted)
      · rw [hp, hp']
        exact .none
      · rw [hp, hp']
        refine .some ⟨(same.alike.expire hnow).1, ?_⟩
        rw [Payment.merchantId_eq_of_draft (p.draft_expire now), Payment.merchantId_eq_of_draft (p'.draft_expire now')]
        exact same.merchant }

end Agrees
end Engine
end Settlement
