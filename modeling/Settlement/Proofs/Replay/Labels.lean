import Settlement.Proofs.Engine.Standing
import Settlement.Proofs.Replay.Likeness

/-! What is seen of an engine through the labels and references of a log. A merchant without a label is seen as one
without money and volume. Two engines agree if they are seen alike, whatever identifiers stand behind the labels. -/
namespace Settlement

structure Labels where
  merchant? : String → Option MerchantId
  payout? : String → Option PayoutId

namespace Labels

/-- Different labels stand for different merchants and payouts. -/
structure Distinct (l : Labels) : Prop where
  merchant : ∀ {a b : String} {m : MerchantId}, l.merchant? a = some m → l.merchant? b = some m → a = b
  payout : ∀ {a b : String} {id : PayoutId}, l.payout? a = some id → l.payout? b = some id → a = b

def withPayout (l : Labels) (label : String) (id : PayoutId) : Labels :=
  { l with payout? := fun other => if other = label then some id else l.payout? other }

def withMerchant (l : Labels) (label : String) (m : MerchantId) : Labels :=
  { l with merchant? := fun other => if other = label then some m else l.merchant? other }

theorem payout?_withPayout (l : Labels) (label other : String) (id : PayoutId) :
    (l.withPayout label id).payout? other = if other = label then some id else l.payout? other := rfl

theorem merchant?_withMerchant (l : Labels) (label other : String) (m : MerchantId) :
    (l.withMerchant label m).merchant? other = if other = label then some m else l.merchant? other := rfl

end Labels

def SameMerchant (names names' : String → Option MerchantId) (m m' : MerchantId) : Prop :=
  ∃ label, names label = some m ∧ names' label = some m'

/-- A store that is read through names shows a new value under one name, if no other name stands for the same place. -/
theorem bind_eq_ite {κ ι ν : Type} [DecidableEq κ] [DecidableEq ι] {names : κ → Option ι} {before after : ι → Option ν}
    {name : κ} {place : ι} {value : ν} (named : names name = some place)
    (unique : ∀ other, names other = some place → other = name)
    (hafter : ∀ i, after i = if i = place then some value else before i) (other : κ) :
    (names other).bind after = if other = name then some value else (names other).bind before := by
  by_cases ho : other = name
  · rw [if_pos ho, ho, named, Option.bind_some, hafter, if_pos rfl]
  · rw [if_neg ho]
    cases hp : names other with
    | none => rfl
    | some i =>
      have hi : i ≠ place := by
        rintro rfl
        exact ho (unique other hp)
      rw [Option.bind_some, Option.bind_some, hafter, if_neg hi]

/-- Names stay names of different places if one of them comes to stand for a place that had no name. -/
theorem eq_of_ite_eq_some {κ ι : Type} [DecidableEq κ] {names : κ → Option ι} {name a b : κ} {place i : ι}
    (unique : ∀ {a b i}, names a = some i → names b = some i → a = b) (unnamed : ∀ {other}, names other ≠ some place)
    (ha : (if a = name then some place else names a) = some i)
    (hb : (if b = name then some place else names b) = some i) : a = b := by
  split at ha <;> split at hb
  case isTrue.isTrue hna hnb => rw [hna, hnb]
  case isTrue.isFalse =>
    cases ha
    exact absurd hb unnamed
  case isFalse.isTrue =>
    cases hb
    exact absurd ha unnamed
  case isFalse.isFalse => exact unique ha hb

def ComplianceProfile.blank : ComplianceProfile := .opened ⟨0⟩ .unverified .epoch

namespace Engine

structure Terms where
  config : SettlementConfig
  tiers : TierTable
  travelRuleThreshold : Decimal
  price : Exchange.CurrencyPair → Option Decimal

def terms (e : Engine) : Terms where
  config := e.config
  tiers := e.gate.tiers
  travelRuleThreshold := e.gate.travelRuleThreshold
  price pair := (e.rates.quotes.get? pair).map (·.rate)

def amounts (e : Engine) (l : Labels) (label : String) : Amounts :=
  (((l.merchant? label).bind e.balance?).map Balance.amounts).getD .zero

def profileOf (e : Engine) (l : Labels) (label : String) : ComplianceProfile :=
  ((l.merchant? label).bind e.gate.profile?).getD .blank

def paymentOf? (e : Engine) (reference : PaymentReference) : Option Payment :=
  (e.payments.references.get? reference).bind e.payment?

def payoutOf? (e : Engine) (l : Labels) (label : String) : Option Payout := (l.payout? label).bind e.payout?

/-- What has a label is stored, all merchants are of one tier, and different references lead to different payments. -/
structure Sound (tier : KycTier) (l : Labels) (e : Engine) : Prop where
  distinct : l.Distinct
  account : ∀ {label m}, l.merchant? label = some m → ∃ row, e.balance? m = some row
  profile : ∀ {label m}, l.merchant? label = some m → ∃ p, e.gate.profile? m = some p ∧ p.tier = tier
  payout : ∀ {label id}, l.payout? label = some id → ∃ p, e.payout? id = some p
  leads : ∀ {reference id}, e.payments.references.get? reference = some id → ∃ p, e.payment? id = some p
  apart : ∀ {reference other id}, e.payments.references.get? reference = some id →
    e.payments.references.get? other = some id → reference = other

variable {tier : KycTier} {l : Labels} {e : Engine} {m : MerchantId} {id : PaymentId} {reference : PaymentReference}

namespace Sound

theorem unlocated (h : e.Sound tier l) (unseen : e.paymentOf? reference = none) :
    e.payments.references.get? reference = none := by
  cases hr : e.payments.references.get? reference with
  | none => rfl
  | some id =>
    obtain ⟨p, hp⟩ := h.leads hr
    rw [paymentOf?, hr, Option.bind_some, hp] at unseen
    cases unseen

theorem unlabelled (h : e.Sound tier l) {label : String} (unseen : e.payoutOf? l label = none) :
    l.payout? label = none := by
  cases hid : l.payout? label with
  | none => rfl
  | some id =>
    obtain ⟨p, hp⟩ := h.payout hid
    rw [payoutOf?, hid, Option.bind_some, hp] at unseen
    cases unseen

/-! ## Writes to one engine -/

theorem storeBalance (h : e.Sound tier l) (m : MerchantId) (b : Balance) : (e.storeBalance m b).Sound tier l :=
  { h with
    account := fun hm => by
      rw [balance?_storeBalance]
      split
      · exact ⟨b, rfl⟩
      · exact h.account hm }

theorem storePayment (h : e.Sound tier l) (id : PaymentId) (p : Payment) : (e.storePayment id p).Sound tier l :=
  { h with
    leads := fun hr => by
      rw [payment?_storePayment]
      split
      · exact ⟨p, rfl⟩
      · exact h.leads hr }

theorem storePayout (h : e.Sound tier l) (id : PayoutId) (p : Payout) : (e.storePayout id p).Sound tier l :=
  { h with
    payout := fun hid => by
      rw [payout?_storePayout]
      split
      · exact ⟨p, rfl⟩
      · exact h.payout hid }

theorem sweepExpired (h : e.Sound tier l) (moment : Moment) : (e.sweepExpired moment).1.Sound tier l :=
  { h with
    leads := fun hr => by
      obtain ⟨p, hp⟩ := h.leads hr
      exact ⟨_, by rw [payment?_sweepExpired, hp]; rfl⟩ }

theorem countVolume (h : e.Sound tier l) (m : MerchantId) (amount : Decimal) (now : Instant) :
    (e.countVolume m amount now).Sound tier l :=
  { h with
    profile := fun {label other} hm => by
      obtain ⟨p, hp, htier⟩ := h.profile hm
      show ∃ q, (e.gate.recordVolume m amount now).1.profile? other = some q ∧ q.tier = tier
      cases hknown : e.gate.profile? m with
      | none =>
        rw [ComplianceGate.recordVolume, hknown]
        exact ⟨p, hp, htier⟩
      | some known =>
        rw [ComplianceGate.recordVolume_of_profile hknown, ComplianceGate.profile?_setProfile]
        split
        case isTrue heq =>
          subst heq
          cases hknown.symm.trans hp
          exact ⟨_, rfl, (ComplianceProfile.tier_addVolume ..).trans htier⟩
        case isFalse => exact ⟨p, hp, htier⟩ }

theorem unreferenced (h : e.Sound tier l) (fresh : e.payment? id = none) (reference : PaymentReference) :
    e.payments.references.get? reference ≠ some id := by
  intro hr
  obtain ⟨p, hp⟩ := h.leads hr
  cases fresh.symm.trans hp

theorem recordPayment (h : e.Sound tier l) {p : Payment} (fresh : e.payment? p.id = none) :
    ((e.storePayment p.id p).indexPayment p.reference p.id).Sound tier l := by
  have hget (reference : PaymentReference) :
      ((e.storePayment p.id p).indexPayment p.reference p.id).payments.references.get? reference =
        if reference = p.reference then some p.id else e.payments.references.get? reference :=
    e.payments.references.get?_insert p.reference reference p.id
  refine { h with leads := fun {reference id} hr => ?_, apart := fun {reference other id} hr ho => ?_ }
  · rw [hget] at hr
    rw [payment?_indexPayment]
    split at hr
    · cases hr
      exact ⟨p, by rw [payment?_storePayment, if_pos rfl]⟩
    · exact (h.storePayment p.id p).leads hr
  · rw [hget] at hr ho
    exact eq_of_ite_eq_some h.apart (h.unreferenced fresh _) hr ho

theorem openPayout (h : e.Sound tier l) {id : PayoutId} (fresh : e.payout? id = none) (p : Payout) (label : String) :
    (e.storePayout id p).Sound tier (l.withPayout label id) := by
  have hother {other : String} : l.payout? other ≠ some id := by
    intro ho
    obtain ⟨q, hq⟩ := h.payout ho
    cases fresh.symm.trans hq
  refine { h with
    distinct := ⟨h.distinct.merchant, fun ha hb => eq_of_ite_eq_some h.distinct.payout hother ha hb⟩
    payout := fun {other id'} hid => ?_ }
  rw [Labels.payout?_withPayout] at hid
  split at hid
  · cases hid
    exact ⟨p, by rw [payout?_storePayout, if_pos rfl]⟩
  · exact (h.storePayout id p).payout hid

end Sound

/-! ### What is seen afterwards -/

section

variable (distinct : l.Distinct) {label : String}
include distinct

theorem amounts_storeBalance (hm : l.merchant? label = some m) (b : Balance) (other : String) :
    (e.storeBalance m b).amounts l other = if other = label then b.amounts else e.amounts l other := by
  rw [amounts, bind_eq_ite hm (fun _ ho => distinct.merchant ho hm) (e.balance?_storeBalance m · b)]
  split <;> rfl

theorem profileOf_countVolume {p : ComplianceProfile} (hm : l.merchant? label = some m)
    (known : e.gate.profile? m = some p) (amount : Decimal) (now : Instant) (other : String) :
    (e.countVolume m amount now).profileOf l other =
      if other = label then (p.addVolume amount now).1 else e.profileOf l other := by
  have hgate : (e.countVolume m amount now).gate = e.gate.setProfile m (p.addVolume amount now).1 := by
    rw [countVolume, ComplianceGate.recordVolume_of_profile known]
  rw [profileOf, hgate, bind_eq_ite hm (fun _ ho => distinct.merchant ho hm) (e.gate.profile?_setProfile m · _)]
  split <;> rfl

theorem payoutOf?_storePayout {id : PayoutId} (hid : l.payout? label = some id) (p : Payout) (other : String) :
    (e.storePayout id p).payoutOf? l other = if other = label then some p else e.payoutOf? l other :=
  bind_eq_ite hid (fun _ ho => distinct.payout ho hid) (e.payout?_storePayout id · p) other

end

theorem payoutOf?_openPayout (h : e.Sound tier l) {id : PayoutId} (fresh : e.payout? id = none) (p : Payout)
    (label other : String) : (e.storePayout id p).payoutOf? (l.withPayout label id) other =
      if other = label then some p else e.payoutOf? l other := by
  have hstored : (e.storePayout id p).Sound tier (l.withPayout label id) := h.openPayout fresh p label
  refine (payoutOf?_storePayout hstored.distinct (if_pos rfl) p other).trans ?_
  split
  · rfl
  case isFalse hne =>
    have hold : (l.withPayout label id).payout? other = l.payout? other := if_neg hne
    rw [payoutOf?, hold, payoutOf?]

theorem paymentOf?_storePayment (h : e.Sound tier l) (located : e.payments.references.get? reference = some id)
    (p : Payment) (other : PaymentReference) :
    (e.storePayment id p).paymentOf? other = if other = reference then some p else e.paymentOf? other :=
  bind_eq_ite located (fun _ ho => h.apart ho located) (e.payment?_storePayment id · p) other

theorem paymentOf?_recordPayment (h : e.Sound tier l) {p : Payment} (fresh : e.payment? p.id = none)
    (other : PaymentReference) :
    ((e.storePayment p.id p).indexPayment p.reference p.id).paymentOf? other =
      if other = p.reference then some p else e.paymentOf? other := by
  have hafter : ∀ other,
      (e.payments.references.insert p.reference p.id).get? other = some p.id → other = p.reference := by
    intro other ho
    rw [Table.get?_insert] at ho
    split at ho
    case isTrue heq => exact heq
    case isFalse => exact absurd ho (h.unreferenced fresh other)
  refine (bind_eq_ite (e.payments.references.get?_insert_self p.reference p.id) hafter
    (e.payment?_storePayment p.id · p) other).trans ?_
  split
  · rfl
  case isFalse hne => rw [e.payments.references.get?_insert_of_ne hne, paymentOf?]

theorem paymentOf?_sweepExpired (e : Engine) (now : Instant) (reference : PaymentReference) :
    (e.sweepExpired ⟨now, {}⟩).1.paymentOf? reference = (e.paymentOf? reference).map fun p => (p.expire now).1 := by
  show (e.payments.references.get? reference).bind (e.sweepExpired ⟨now, {}⟩).1.payment? = _
  cases ho : e.payments.references.get? reference with
  | none => rw [paymentOf?, ho]; rfl
  | some id => rw [paymentOf?, ho]; exact e.payment?_sweepExpired ⟨now, {}⟩ id

end Engine
end Settlement
