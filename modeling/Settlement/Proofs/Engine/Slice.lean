import Settlement.Proofs.Compliance.Gate
import Settlement.Proofs.Engine.Records
import Settlement.Proofs.Table

/-! The slice of an engine that belongs to one merchant: its balance and profile, its payments with
their references, and its payouts. The settings and the rates are shared. -/
namespace Settlement

variable {mine other : MerchantId}

namespace Ledger

def part (l : Ledger) (mine : MerchantId) : Ledger := ⟨l.balances.restrict fun merchant _ => merchant = mine⟩

@[simp] theorem balance?_part (l : Ledger) : (l.part mine).balance? mine = l.balance? mine := by
  show (l.balances.restrict _).get? mine = _
  rw [Table.get?_restrict, ← balance?]
  cases l.balance? mine <;> simp

theorem part_insert (l : Ledger) (balance : Balance) :
    (⟨l.balances.insert mine balance⟩ : Ledger).part mine = ⟨(l.part mine).balances.insert mine balance⟩ := by
  simp [part, Table.restrict_insert_of_keep]

theorem part_insert_of_ne (l : Ledger) (h : other ≠ mine) (balance : Balance) :
    (⟨l.balances.insert other balance⟩ : Ledger).part mine = l.part mine := by
  simp [part, Table.restrict_insert_of_not, h]

theorem part_openAccount (l : Ledger) (now : Instant) :
    (l.openAccount mine now).part mine = (l.part mine).openAccount mine now := by
  unfold openAccount
  rw [balance?_part]
  cases l.balance? mine with
  | some row => rfl
  | none => exact l.part_insert _

theorem part_openAccount_of_ne (l : Ledger) (h : other ≠ mine) (now : Instant) :
    (l.openAccount other now).part mine = l.part mine := by
  unfold openAccount
  cases l.balance? other with
  | some row => rfl
  | none => exact l.part_insert_of_ne h _

theorem apply_part (l : Ledger) (held : List MerchantId) (op : LedgerOp) (now : Instant) :
    (l.part mine).apply held mine op now =
      (l.apply held mine op now).map fun moved => (moved.1.part mine, moved.2) := by
  unfold apply
  rw [balance?_part]
  cases l.balance? mine with
  | none => rfl
  | some row =>
    by_cases free : mine ∉ held
    · simp only [require_some, check_of free]
      show (row.apply op now >>= _) = (row.apply op now >>= _).map _
      cases row.apply op now with
      | error fault => rfl
      | ok balance => exact congrArg (fun l => Except.ok (l, balance)) (l.part_insert balance).symm
    · simp only [require_some, check_of_not free]
      rfl

end Ledger

namespace ComplianceGate

def part (g : ComplianceGate) (mine : MerchantId) : ComplianceGate :=
  { g with profiles := g.profiles.restrict fun merchant _ => merchant = mine }

@[simp] theorem profile?_part (g : ComplianceGate) : (g.part mine).profile? mine = g.profile? mine := by
  show (g.profiles.restrict _).get? mine = _
  rw [Table.get?_restrict, ← profile?]
  cases g.profile? mine <;> simp

theorem part_setProfile (g : ComplianceGate) (p : ComplianceProfile) :
    (g.setProfile mine p).part mine = (g.part mine).setProfile mine p := by
  simp [part, setProfile, Table.restrict_insert_of_keep]

theorem part_setProfile_of_ne (g : ComplianceGate) (h : other ≠ mine) (p : ComplianceProfile) :
    (g.setProfile other p).part mine = g.part mine := by
  simp [part, setProfile, Table.restrict_insert_of_not, h]

theorem part_register (g : ComplianceGate) (tier : KycTier) (now : Instant) :
    (g.register mine tier now).part mine = (g.part mine).register mine tier now := by
  unfold register
  rw [profile?_part]
  cases g.profile? mine with
  | some p => rfl
  | none => exact g.part_setProfile _

theorem part_register_of_ne (g : ComplianceGate) (h : other ≠ mine) (tier : KycTier) (now : Instant) :
    (g.register other tier now).part mine = g.part mine := by
  unfold register
  cases g.profile? other with
  | some p => rfl
  | none => exact g.part_setProfile_of_ne h _

theorem setTier_part (g : ComplianceGate) (tier : KycTier) :
    (g.part mine).setTier mine tier = (g.setTier mine tier).map (·.part mine) := by
  unfold setTier
  rw [profile?_part]
  cases g.profile? mine with
  | none => rfl
  | some p => exact congrArg Except.ok (g.part_setProfile _).symm

theorem part_setTier_of_ne {g next : ComplianceGate} {tier : KycTier} (h : other ≠ mine)
    (known : g.setTier other tier = .ok next) : next.part mine = g.part mine := by
  obtain ⟨p, -, rfl⟩ := setTier_eq_ok.mp known
  exact g.part_setProfile_of_ne h _

theorem recordVolume_part (g : ComplianceGate) (amount : Decimal) (now : Instant) :
    (g.part mine).recordVolume mine amount now =
      ((g.recordVolume mine amount now).1.part mine, (g.recordVolume mine amount now).2) := by
  unfold recordVolume
  rw [profile?_part]
  cases g.profile? mine with
  | none => rfl
  | some p => exact congrArg (·, _) (g.part_setProfile _).symm

theorem part_recordVolume_of_ne (g : ComplianceGate) (h : other ≠ mine) (amount : Decimal) (now : Instant) :
    (g.recordVolume other amount now).1.part mine = g.part mine := by
  unfold recordVolume
  cases g.profile? other with
  | none => rfl
  | some p => exact g.part_setProfile_of_ne h _

theorem remaining_part (g : ComplianceGate) (now : Instant) :
    (g.part mine).remaining mine now = g.remaining mine now := by
  unfold remaining
  rw [profile?_part]
  rfl

theorem evaluate_part (g : ComplianceGate) (amount usdEquivalent : Decimal) (payer : Option PayerIdentity)
    (now : Instant) :
    (g.part mine).evaluate mine amount usdEquivalent payer now = g.evaluate mine amount usdEquivalent payer now := by
  unfold evaluate
  rw [remaining_part]
  rfl

end ComplianceGate

namespace Engine

open Engine.Action

variable {holder : PaymentReference → Option MerchantId} {e : Engine}

/-- What belongs to one merchant, with the settings and the rates. A reference belongs to the merchant that `holder`
names. -/
def slice (holder : PaymentReference → Option MerchantId) (mine : MerchantId) (e : Engine) : Engine :=
  { e with
    ledger := e.ledger.part mine
    gate := e.gate.part mine
    payments :=
      { records := e.payments.records.restrict fun _ p => p.merchantId = mine
        references := e.payments.references.restrict fun reference _ => holder reference = some mine }
    payouts := e.payouts.restrict fun _ p => p.merchantId = mine }

/-! ## Reading -/

@[simp] theorem balance?_slice : (slice holder mine e).balance? mine = e.balance? mine := e.ledger.balance?_part

@[simp] theorem payment?_slice (id : PaymentId) :
    (slice holder mine e).payment? id = (e.payment? id).filter fun p => p.merchantId = mine :=
  e.payments.records.get?_restrict id

@[simp] theorem payout?_slice (id : PayoutId) :
    (slice holder mine e).payout? id = (e.payout? id).filter fun p => p.merchantId = mine :=
  e.payouts.get?_restrict id

@[simp] theorem reference_slice (reference : PaymentReference) :
    (slice holder mine e).payments.references.get? reference =
      (e.payments.references.get? reference).filter fun _ => holder reference = some mine :=
  e.payments.references.get?_restrict reference

theorem reference_slice_of_mine {reference : PaymentReference} (h : holder reference = some mine) :
    (slice holder mine e).payments.references.get? reference = e.payments.references.get? reference := by
  rw [reference_slice]
  cases e.payments.references.get? reference <;> simp [Option.filter, h]

theorem payment?_slice_of_mine {id : PaymentId} {p : Payment} (stored : e.payment? id = some p)
    (h : p.merchantId = mine) : (slice holder mine e).payment? id = some p := by
  simp [stored, h]

theorem payout?_slice_of_mine {id : PayoutId} {p : Payout} (stored : e.payout? id = some p)
    (h : p.merchantId = mine) : (slice holder mine e).payout? id = some p := by
  simp [stored, h]

theorem lockPayment_slice {id : PaymentId} {p : Payment} (stored : e.payment? id = some p) (h : p.merchantId = mine)
    (held : List PaymentId) : (slice holder mine e).lockPayment held id = e.lockPayment held id :=
  lockPayment_congr ((payment?_slice_of_mine stored h).trans stored.symm) held

theorem lockPayout_slice {id : PayoutId} {p : Payout} (stored : e.payout? id = some p) (h : p.merchantId = mine)
    (held : List PayoutId) : (slice holder mine e).lockPayout held id = e.lockPayout held id :=
  lockPayout_congr ((payout?_slice_of_mine stored h).trans stored.symm) held

theorem payoutsFor_slice (rank : PayoutId → Nat) :
    (slice holder mine e).payoutsFor mine rank = e.payoutsFor mine rank := by
  have hmine : (slice holder mine e).payouts.values.filter (fun p => p.merchantId = mine) =
      e.payouts.values.filter fun p => p.merchantId = mine := by
    simp [slice, Table.values, Table.restrict, List.filter_map, Function.comp_def]
  rw [payoutsFor, payoutsFor, hmine]

theorem draftPayment_slice (fresh : FreshPayment) {invoice : NewInvoice} (h : invoice.merchantId = mine)
    (now : Instant) : (slice holder mine e).draftPayment fresh invoice now = e.draftPayment fresh invoice now := by
  subst h
  have husd : (slice holder invoice.merchantId e).usdEquivalent = e.usdEquivalent := rfl
  have hgate : (slice holder invoice.merchantId e).gate = e.gate.part invoice.merchantId := rfl
  have hledger : (slice holder invoice.merchantId e).ledger = e.ledger.part invoice.merchantId := rfl
  unfold draftPayment
  simp only [husd, hgate, hledger, ComplianceGate.evaluate_part, Ledger.balance?_part]
  rfl

/-! ## Writing -/

theorem slice_storeBalance_of_ne (h : other ≠ mine) (balance : Balance) :
    slice holder mine (e.storeBalance other balance) = slice holder mine e := by
  unfold slice storeBalance
  rw [Ledger.part_insert_of_ne _ h]

theorem slice_countVolume (amount : Decimal) (now : Instant) :
    slice holder mine (e.countVolume mine amount now) = (slice holder mine e).countVolume mine amount now := by
  unfold slice countVolume
  rw [ComplianceGate.recordVolume_part]

theorem slice_countVolume_of_ne (h : other ≠ mine) (amount : Decimal) (now : Instant) :
    slice holder mine (e.countVolume other amount now) = slice holder mine e := by
  unfold slice countVolume
  rw [ComplianceGate.part_recordVolume_of_ne _ h]

theorem slice_storePayment {id : PaymentId} {p : Payment} (h : p.merchantId = mine)
    (old : ∀ q, e.payment? id = some q → q.merchantId = mine) :
    slice holder mine (e.storePayment id p) = (slice holder mine e).storePayment id p := by
  unfold slice storePayment
  rw [Table.restrict_insert_of_keep]
  · exact decide_eq_true h
  · exact fun q hq => decide_eq_true (old q hq)

theorem slice_storePayment_of_ne {id : PaymentId} {p : Payment} (h : p.merchantId ≠ mine)
    (old : ∀ q, e.payment? id = some q → q.merchantId ≠ mine) :
    slice holder mine (e.storePayment id p) = slice holder mine e := by
  unfold slice storePayment
  rw [Table.restrict_insert_of_not]
  · exact decide_eq_false h
  · exact fun q hq => decide_eq_false (old q hq)

theorem slice_replacePayment {id : PaymentId} {p q : Payment} (stored : e.payment? id = some p)
    (same : q.draft = p.draft) (h : p.merchantId = mine) :
    slice holder mine (e.storePayment id q) = (slice holder mine e).storePayment id q := by
  refine slice_storePayment ((Payment.merchantId_eq_of_draft same).trans h) fun r hr => ?_
  cases stored.symm.trans hr
  exact h

theorem slice_replacePayment_of_ne {id : PaymentId} {p q : Payment} (stored : e.payment? id = some p)
    (same : q.draft = p.draft) (h : p.merchantId ≠ mine) :
    slice holder mine (e.storePayment id q) = slice holder mine e := by
  refine slice_storePayment_of_ne (by rwa [Payment.merchantId_eq_of_draft same]) fun r hr => ?_
  cases stored.symm.trans hr
  exact h

theorem slice_indexPayment {reference : PaymentReference} (h : holder reference = some mine) (id : PaymentId) :
    slice holder mine (e.indexPayment reference id) = (slice holder mine e).indexPayment reference id := by
  unfold slice indexPayment
  rw [Table.restrict_insert_of_keep]
  · exact decide_eq_true h
  · exact fun _ _ => decide_eq_true h

theorem slice_indexPayment_of_ne {reference : PaymentReference} (h : holder reference ≠ some mine) (id : PaymentId) :
    slice holder mine (e.indexPayment reference id) = slice holder mine e := by
  unfold slice indexPayment
  rw [Table.restrict_insert_of_not]
  · exact decide_eq_false h
  · exact fun _ _ => decide_eq_false h

theorem slice_storePayout {id : PayoutId} {p : Payout} (h : p.merchantId = mine)
    (old : ∀ q, e.payout? id = some q → q.merchantId = mine) :
    slice holder mine (e.storePayout id p) = (slice holder mine e).storePayout id p := by
  unfold slice storePayout
  rw [Table.restrict_insert_of_keep]
  · exact decide_eq_true h
  · exact fun q hq => decide_eq_true (old q hq)

theorem slice_storePayout_of_ne {id : PayoutId} {p : Payout} (h : p.merchantId ≠ mine)
    (old : ∀ q, e.payout? id = some q → q.merchantId ≠ mine) :
    slice holder mine (e.storePayout id p) = slice holder mine e := by
  unfold slice storePayout
  rw [Table.restrict_insert_of_not]
  · exact decide_eq_false h
  · exact fun q hq => decide_eq_false (old q hq)

theorem slice_replacePayout {id : PayoutId} {p q : Payout} (stored : e.payout? id = some p)
    (same : q.draft = p.draft) (h : p.merchantId = mine) :
    slice holder mine (e.storePayout id q) = (slice holder mine e).storePayout id q := by
  refine slice_storePayout ((Payout.merchantId_eq_of_draft same).trans h) fun r hr => ?_
  cases stored.symm.trans hr
  exact h

theorem slice_replacePayout_of_ne {id : PayoutId} {p q : Payout} (stored : e.payout? id = some p)
    (same : q.draft = p.draft) (h : p.merchantId ≠ mine) :
    slice holder mine (e.storePayout id q) = slice holder mine e := by
  refine slice_storePayout_of_ne (by rwa [Payout.merchantId_eq_of_draft same]) fun r hr => ?_
  cases stored.symm.trans hr
  exact h

theorem slice_registerMerchant (tier : KycTier) (now : Instant) :
    slice holder mine (e.registerMerchant mine tier now) = (slice holder mine e).registerMerchant mine tier now := by
  simp only [registerMerchant, slice, Ledger.part_openAccount, ComplianceGate.setTier_part]
  cases e.gate.setTier mine tier with
  | ok gate => rfl
  | error fault =>
    simp only [ComplianceGate.part_register]
    rfl

theorem slice_registerMerchant_of_ne (h : other ≠ mine) (tier : KycTier) (now : Instant) :
    slice holder mine (e.registerMerchant other tier now) = slice holder mine e := by
  simp only [registerMerchant, slice, Ledger.part_openAccount_of_ne _ h]
  cases known : e.gate.setTier other tier with
  | ok gate => simp only [ComplianceGate.part_setTier_of_ne h known]
  | error fault => simp only [ComplianceGate.part_register_of_ne _ h]

theorem slice_sweepExpired (moment : Moment) :
    slice holder mine (e.sweepExpired moment).1 = ((slice holder mine e).sweepExpired moment).1 := by
  have hsame (id : PaymentId) (p : Payment) :
      decide ((swept moment id p).merchantId = mine) = decide (p.merchantId = mine) := by
    rw [Payment.merchantId_eq_of_draft (draft_swept moment id p)]
  unfold sweepExpired slice
  rw [Table.restrict_mapValues _ hsame]

end Engine
end Settlement
