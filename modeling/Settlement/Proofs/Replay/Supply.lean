import Settlement.Proofs.Engine.Standing
import Settlement.Replay.Basic

/-! Identifiers that are still to be drawn. Nothing is stored under them, and only the operation that hands one out
changes that. -/
namespace Settlement
namespace Engine

variable {e next : Engine} {moment : Moment} {op : Operation} {u : Uuid}

/-- Nothing is stored under the identifier, and the reference that it generates leads nowhere. -/
structure Unused (e : Engine) (u : Uuid) : Prop where
  account : e.balance? ⟨u⟩ = none
  profile : e.gate.profile? ⟨u⟩ = none
  payment : e.payment? ⟨u⟩ = none
  payout : e.payout? ⟨u⟩ = none
  reference : e.payments.references.get? (.generate u) = none

/-- The operation does not hand out the identifier, nor the reference that it generates. -/
def Operation.Spares (u : Uuid) : Operation → Prop
  | registerMerchant merchant _ | openAccount merchant | registerProfile merchant _ => merchant ≠ ⟨u⟩
  | createInvoice fresh invoice => fresh.id ≠ ⟨u⟩ ∧ invoice.reference.getD fresh.reference ≠ .generate u
  | requestPayout fresh _ | resubmit _ fresh _ => fresh ≠ ⟨u⟩
  | _ => True

theorem ne_of_unused {κ ν : Type} {store : κ → Option ν} {place other : κ} {value : ν} (stored : store place = some value)
    (unused : store other = none) : other ≠ place := by
  rintro rfl
  cases unused.symm.trans stored

theorem Moves.balance?_eq_none {merchant other : MerchantId} {op : LedgerOp} {balance : Balance}
    (moves : e.Moves moment merchant op balance) (unknown : e.balance? other = none) :
    (e.storeBalance merchant balance).balance? other = none := by
  obtain ⟨row, hrow, -⟩ := moves
  rw [balance?_storeBalance, if_neg (ne_of_unused hrow unknown), unknown]

theorem balance?_openAccount_of_ne {merchant other : MerchantId} (hne : merchant ≠ other) (now : Instant) :
    (e.ledger.openAccount merchant now).balance? other = e.balance? other := by
  rw [balance?_openAccount, if_neg hne.symm]

theorem profile?_register_of_ne {merchant other : MerchantId} (hne : merchant ≠ other) (g : ComplianceGate)
    (tier : KycTier) (now : Instant) : (g.register merchant tier now).profile? other = g.profile? other := by
  unfold ComplianceGate.register
  cases g.profile? merchant with
  | some p => rfl
  | none => rw [ComplianceGate.profile?_setProfile, if_neg hne.symm]

theorem profile?_eq_none_of_setTier {g gate : ComplianceGate} {merchant other : MerchantId} {tier : KycTier}
    (known : g.setTier merchant tier = .ok gate) (unknown : g.profile? other = none) : gate.profile? other = none := by
  obtain ⟨p, hp, rfl⟩ := ComplianceGate.setTier_eq_ok.mp known
  rw [ComplianceGate.profile?_setProfile, if_neg (ne_of_unused hp unknown), unknown]

theorem profile?_registerMerchant_of_ne {merchant other : MerchantId} (hne : merchant ≠ other)
    (unknown : e.gate.profile? other = none) (tier : KycTier) (now : Instant) :
    (e.registerMerchant merchant tier now).gate.profile? other = none := by
  unfold registerMerchant
  cases h : e.gate.setTier merchant tier with
  | ok gate => exact profile?_eq_none_of_setTier h unknown
  | error fault => exact (profile?_register_of_ne hne e.gate tier now).trans unknown

theorem profile?_countVolume_eq_none {merchant other : MerchantId} (unknown : e.gate.profile? other = none)
    (amount : Decimal) (now : Instant) : (e.countVolume merchant amount now).gate.profile? other = none := by
  show (e.gate.recordVolume merchant amount now).1.profile? other = none
  cases hp : e.gate.profile? merchant with
  | none => rw [ComplianceGate.recordVolume, hp, unknown]
  | some p =>
    rw [ComplianceGate.recordVolume_of_profile hp, ComplianceGate.profile?_setProfile,
      if_neg (ne_of_unused hp unknown), unknown]

theorem payment?_storePayment_eq_none {id other : PaymentId} {p : Payment} (stored : e.payment? id = some p)
    (unused : e.payment? other = none) (q : Payment) : (e.storePayment id q).payment? other = none := by
  rw [payment?_storePayment, if_neg (ne_of_unused stored unused), unused]

theorem payout?_storePayout_eq_none {id other : PayoutId} {p : Payout} (stored : e.payout? id = some p)
    (unused : e.payout? other = none) (q : Payout) : (e.storePayout id q).payout? other = none := by
  rw [payout?_storePayout, if_neg (ne_of_unused stored unused), unused]

theorem Step.unused (h : Step e moment op next) (spares : op.Spares u) (hu : e.Unused u) : next.Unused u := by
  cases h with
  | idle | rate => exact { hu with }
  | register merchant tier => exact { hu with
      account := (balance?_openAccount_of_ne spares _).trans hu.account
      profile := profile?_registerMerchant_of_ne spares hu.profile tier _ }
  | account merchant => exact { hu with account := (balance?_openAccount_of_ne spares _).trans hu.account }
  | profile merchant tier => exact { hu with profile := (profile?_register_of_ne spares _ tier _).trans hu.profile }
  | tier known => exact { hu with profile := profile?_eq_none_of_setTier known hu.profile }
  | volume merchant amount => exact { hu with profile := profile?_countVolume_eq_none hu.profile amount _ }
  | @invoice fresh invoice p drafted vacant =>
    have hdrafted := drafted_of_ok drafted
    have hid : (⟨u⟩ : PaymentId) ≠ p.id := by
      rw [hdrafted.id_eq]
      exact spares.1.symm
    have hreference : PaymentReference.generate u ≠ p.reference := by
      rw [hdrafted.reference_eq]
      exact spares.2.symm
    exact { hu with
      payment := by rw [payment?_indexPayment, payment?_storePayment, if_neg hid, hu.payment]
      reference := (e.payments.references.get?_insert_of_ne hreference p.id).trans hu.reference }
  | advance located stored | lapse read stored => exact { hu with
      payment := payment?_storePayment_eq_none stored hu.payment _ }
  | complete located stored applied credited => exact { hu with
      account := credited.balance?_eq_none hu.account
      profile := profile?_countVolume_eq_none (e := (e.storeBalance _ _).storePayment _ _) hu.profile _ _
      payment := payment?_storePayment_eq_none (e := e.storeBalance _ _) stored hu.payment _ }
  | sweep => exact { hu with payment := by rw [payment?_sweepExpired, hu.payment]; rfl }
  | move moved => exact { hu with account := moved.balance?_eq_none hu.account }
  | request valid reserved => exact { hu with
      account := reserved.balance?_eq_none hu.account
      payout := by rw [payout?_storePayout, if_neg (Ne.symm spares)]; exact hu.payout }
  | act stored => exact { hu with payout := payout?_storePayout_eq_none stored hu.payout _ }
  | finish stored acted moves moved => exact { hu with
      account := moved.balance?_eq_none hu.account
      payout := payout?_storePayout_eq_none (e := e.storeBalance _ _) stored hu.payout _ }
  | @retry id fresh actor failed fee balance stored status first valid reserved =>
    exact { hu with
      account := reserved.balance?_eq_none hu.account
      payout := by
        rw [payout?_storePayout, if_neg (ne_of_unused stored hu.payout), payout?_storePayout, if_neg (Ne.symm spares)]
        exact hu.payout }

end Engine

/-! ## Draws -/

namespace Uuid.Supply

def upcoming (s : Supply) (n : Nat) : List Uuid := (List.range n).map fun i => s.draw (s.used + i)

theorem upcoming_succ (s : Supply) (n : Nat) : s.upcoming (n + 1) = s.next.1 :: s.next.2.upcoming n := by
  simp only [upcoming, next, List.range_succ_eq_map, List.map_cons, List.map_map, Nat.add_zero]
  refine congrArg _ (List.map_congr_left fun i _ => ?_)
  show s.draw (s.used + (i + 1)) = s.draw (s.used + 1 + i)
  rw [Nat.add_assoc, Nat.add_comm 1 i]

theorem upcoming_prefix (s : Supply) {k n : Nat} (h : k ≤ n) : s.upcoming k <+: s.upcoming n := by
  obtain ⟨more, rfl⟩ := Nat.exists_eq_add_of_le h
  rw [upcoming, upcoming, List.range_add, List.map_append]
  exact List.prefix_append _ _

end Uuid.Supply
end Settlement
