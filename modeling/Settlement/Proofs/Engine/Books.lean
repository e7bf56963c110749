import Settlement.Proofs.Balance.Exact
import Settlement.Proofs.Engine.Records
import Settlement.Proofs.Engine.Run
import Settlement.Proofs.Table

/-! The balances and the records of payments and payouts. Each step that moves money
changes a record such that the balance which the records account for moves alike;
as long as nothing is rounded, the two agree. -/
namespace Settlement

open Decimal

namespace PayoutStatus

/-- The statuses of a payout whose amount is reserved. -/
def reserving : List PayoutStatus := [requested, approved, processing]

theorem mem_reserving {status : PayoutStatus} : status ∈ reserving ↔ status.isTerminal = false := by
  cases status <;> decide

end PayoutStatus

namespace Engine

open PayoutStatus

def payoutTotal (e : Engine) (merchant : MerchantId) (statuses : List PayoutStatus) : ℚ :=
  e.payouts.total (fun p => p.merchantId = merchant ∧ p.status ∈ statuses) fun p => p.amount.toRat

def earned (e : Engine) (merchant : MerchantId) : ℚ :=
  e.payments.records.total (fun p => p.merchantId = merchant ∧ p.status = .completed) fun p => p.netAmount.toRat

/-- The sum of all positive net amounts of payments, completed or not. -/
def income (e : Engine) : ℚ :=
  e.payments.records.total (fun p => p.netAmount.Positive) fun p => p.netAmount.toRat

/-- All amounts are multiples of `10 ^ -s`, and the payments together are within the range of decimals at
that scale. -/
structure OnGrid (s : Nat) (e : Engine) : Prop where
  payments : ∀ id p, e.payment? id = some p → MultipleOf s p.netAmount.toRat
  payouts : ∀ id p, e.payout? id = some p → MultipleOf s p.amount.toRat
  income_lt : e.income < 2 ^ 96 / 10 ^ s

/-- The same of the amounts that can be moved. A payment whose net amount is not positive never completes. -/
structure InRange (s : Nat) (e : Engine) : Prop where
  payments : ∀ id p, e.payment? id = some p → p.netAmount.Positive → MultipleOf s p.netAmount.toRat
  payouts : ∀ id p, e.payout? id = some p → MultipleOf s p.amount.toRat
  income_lt : e.income < 2 ^ 96 / 10 ^ s

def exactBalance (e : Engine) : MerchantId → ExactBalance := e.readBalance Balance.exact .zero

/-- The balance that the records of a merchant account for. -/
def booked (e : Engine) (merchant : MerchantId) : ExactBalance where
  available := e.earned merchant - e.payoutTotal merchant reserving - e.payoutTotal merchant [.completed]
  pending := e.payoutTotal merchant reserving
  totalReceived := e.earned merchant
  totalPaidOut := e.payoutTotal merchant [.completed]

structure Positive (e : Engine) : Prop where
  payouts : ∀ id p, e.payout? id = some p → 0 < p.amount.toRat
  completed : ∀ id p, e.payment? id = some p → p.status = .completed → 0 < p.netAmount.toRat

/-- No merchant has withdrawn more than it received, and the balances are those that the records account
for. -/
structure Booked (e : Engine) : Prop extends e.Positive where
  available_nonneg : ∀ merchant, 0 ≤ (e.booked merchant).available
  balance_eq : ∀ merchant, e.exactBalance merchant = e.booked merchant

variable {e next : Engine} {moment : Moment} {op : Operation} {s : Nat}

/-! ## The balance that the records account for -/

theorem total_storePayment (e : Engine) (id : PaymentId) (q : Payment) (keep : Payment → Prop) [DecidablePred keep]
    (f : Payment → ℚ) : (e.storePayment id q).payments.records.total keep f =
      e.payments.records.total keep f - Table.shareOf keep f (e.payment? id) + Table.share keep f q :=
  Table.total_insert keep f e.payments.records id q

theorem total_storePayout (e : Engine) (id : PayoutId) (q : Payout) (keep : Payout → Prop) [DecidablePred keep]
    (f : Payout → ℚ) : (e.storePayout id q).payouts.total keep f =
      e.payouts.total keep f - Table.shareOf keep f (e.payout? id) + Table.share keep f q :=
  Table.total_insert keep f e.payouts id q

theorem booked_within (he : e.Positive) (merchant : MerchantId) (h : 0 ≤ (e.booked merchant).available) {bound : ℚ}
    (hincome : e.income < bound) : (e.booked merchant).Within bound := by
  have hpayouts (statuses : List PayoutStatus) : 0 ≤ e.payoutTotal merchant statuses :=
    Table.total_nonneg fun id p hp _ => le_of_lt (he.payouts id p hp)
  have hearned : e.earned merchant ≤ e.income :=
    Table.total_le_total (fun id p hp hk => positive_iff_toRat.mpr (he.completed id p hp hk.2))
      fun id p _ hk => le_of_lt (positive_iff_toRat.mp hk)
  exact {
    available_nonneg := h
    pending_nonneg := hpayouts reserving
    totalPaidOut_nonneg := hpayouts [.completed]
    conserved := by simp only [booked]; ring
    totalReceived_lt := lt_of_le_of_lt hearned hincome }

theorem OnGrid.inRange (h : e.OnGrid s) : e.InRange s := ⟨fun id p hp _ => h.payments id p hp, h.payouts, h.income_lt⟩

theorem booked_onGrid (he : e.Positive) (h : e.InRange s) (merchant : MerchantId) : (e.booked merchant).OnGrid s := by
  have hpayouts (statuses : List PayoutStatus) : MultipleOf s (e.payoutTotal merchant statuses) :=
    Table.total_mem (.zero s) .add fun id p hp _ => h.payouts id p hp
  have hearned : MultipleOf s (e.earned merchant) :=
    Table.total_mem (.zero s) .add fun id p hp hk =>
      h.payments id p hp (positive_iff_toRat.mpr (he.completed id p hp hk.2))
  exact ⟨(hearned.sub (hpayouts _)).sub (hpayouts _), hpayouts _, hearned, hpayouts _⟩

theorem earned_storePayment {id : PaymentId} {p : Payment} (stored : e.payment? id = some p)
    (hp : p.status ≠ .completed) (q : Payment) (merchant : MerchantId) :
    (e.storePayment id q).earned merchant =
      e.earned merchant + if q.merchantId = merchant ∧ q.status = .completed then q.netAmount.toRat else 0 := by
  unfold earned
  rw [total_storePayment, stored]
  simp [Table.shareOf, Table.share, hp]

theorem income_storePayment {id : PaymentId} {p q : Payment} (stored : e.payment? id = some p)
    (same : q.draft = p.draft) : (e.storePayment id q).income = e.income := by
  have hnet : q.netAmount = p.netAmount := Payment.netAmount_eq_of_draft same
  unfold income
  rw [total_storePayment, stored]
  simp [Table.shareOf, Table.share, hnet]

theorem payoutTotal_storePayout {id : PayoutId} {p q : Payout} (stored : e.payout? id = some p)
    (same : q.draft = p.draft) (merchant : MerchantId) (statuses : List PayoutStatus) :
    (e.storePayout id q).payoutTotal merchant statuses =
      e.payoutTotal merchant statuses -
          (if p.merchantId = merchant ∧ p.status ∈ statuses then p.amount.toRat else 0) +
        if p.merchantId = merchant ∧ q.status ∈ statuses then p.amount.toRat else 0 := by
  have hmerchant : q.merchantId = p.merchantId := Payout.merchantId_eq_of_draft same
  have hamount : q.amount = p.amount := Payout.amount_eq_of_draft same
  unfold payoutTotal
  rw [total_storePayout, stored]
  simp [Table.shareOf, Table.share, hmerchant, hamount]

theorem payoutTotal_storePayout_of_fresh {fresh : PayoutId} {q : Payout} (hfresh : e.payout? fresh = none)
    (merchant : MerchantId) (statuses : List PayoutStatus) :
    (e.storePayout fresh q).payoutTotal merchant statuses =
      e.payoutTotal merchant statuses +
        if q.merchantId = merchant ∧ q.status ∈ statuses then q.amount.toRat else 0 := by
  unfold payoutTotal
  rw [total_storePayout, hfresh]
  simp [Table.shareOf, Table.share]

/-- An action on a payout moves the balance that the records account for like it moves money. -/
theorem booked_storePayout {id : PayoutId} {p q : Payout} (stored : e.payout? id = some p) (same : q.draft = p.draft)
    (alive : p.status.isTerminal = false) (merchant : MerchantId) :
    (e.storePayout id q).booked merchant =
      if merchant = q.merchantId then (movement? q q.status).elim (e.booked merchant) (e.booked merchant).move
      else e.booked merchant := by
  have hreserving : p.status ∈ reserving := mem_reserving.mpr alive
  have hcompleted : p.status ∉ [.completed] := by
    rw [List.mem_singleton]
    intro h
    rw [h] at alive
    cases alive
  have hearned : (e.storePayout id q).earned merchant = e.earned merchant := rfl
  simp only [booked, hearned, payoutTotal_storePayout stored same, Payout.merchantId_eq_of_draft same, hreserving,
    hcompleted, and_true, and_false, if_false, sub_zero]
  by_cases hm : merchant = p.merchantId
  · have hamount : q.amount = p.amount := Payout.amount_eq_of_draft same
    rw [if_pos hm.symm, if_pos hm]
    cases hs : q.status <;>
      simp [movement?, hamount, hm, reserving, ExactBalance.move, sub_add_eq_add_sub, sub_sub_eq_add_sub]
    all_goals ring
  · simp [hm, Ne.symm hm]

theorem booked_storePayout_of_fresh {fresh : PayoutId} {q : Payout} (hfresh : e.payout? fresh = none)
    (hq : q.status = .requested) (merchant : MerchantId) :
    (e.storePayout fresh q).booked merchant =
      if merchant = q.merchantId then (e.booked merchant).move (.reserve q.amount) else e.booked merchant := by
  have hearned : (e.storePayout fresh q).earned merchant = e.earned merchant := rfl
  simp only [booked, hearned, payoutTotal_storePayout_of_fresh hfresh, hq]
  by_cases hm : merchant = q.merchantId
  · simp only [hm, reserving, ExactBalance.move, if_true]
    simp
    ring
  · simp [hm, Ne.symm hm]

/-- Linking a failed payout with another one does not change the balance that the records account for. -/
theorem booked_linked {id retry : PayoutId} {p : Payout} (stored : e.payout? id = some p) (now : Instant)
    (merchant : MerchantId) : (e.storePayout id (p.linked retry now)).booked merchant = e.booked merchant := by
  have htotal (statuses : List PayoutStatus) :
      (e.storePayout id (p.linked retry now)).payoutTotal merchant statuses = e.payoutTotal merchant statuses := by
    rw [payoutTotal_storePayout stored (q := p.linked retry now) rfl]
    exact sub_add_cancel _ _
  have hearned : (e.storePayout id (p.linked retry now)).earned merchant = e.earned merchant := rfl
  simp only [booked, htotal, hearned]

theorem booked_storePayment {id : PaymentId} {p q : Payment} (stored : e.payment? id = some p)
    (hp : p.status ≠ .completed) (merchant : MerchantId) :
    (e.storePayment id q).booked merchant =
      if merchant = q.merchantId ∧ q.status = .completed then (e.booked merchant).move (.credit q.netAmount)
      else e.booked merchant := by
  have htotal (statuses : List PayoutStatus) :
      (e.storePayment id q).payoutTotal merchant statuses = e.payoutTotal merchant statuses := rfl
  simp only [booked, htotal, earned_storePayment stored hp]
  by_cases hm : merchant = q.merchantId ∧ q.status = .completed
  · rw [if_pos hm, if_pos ⟨hm.1.symm, hm.2⟩]
    simp only [ExactBalance.move]
    ring_nf
  · have hm' : ¬ (q.merchantId = merchant ∧ q.status = .completed) := fun h => hm ⟨h.1.symm, h.2⟩
    rw [if_neg hm, if_neg hm', add_zero]

theorem booked_storePayment_of_fresh {id : PaymentId} {q : Payment} (hfresh : e.payment? id = none)
    (hq : q.status ≠ .completed) (merchant : MerchantId) :
    (e.storePayment id q).booked merchant = e.booked merchant := by
  have htotal (statuses : List PayoutStatus) :
      (e.storePayment id q).payoutTotal merchant statuses = e.payoutTotal merchant statuses := rfl
  have hearned : (e.storePayment id q).earned merchant = e.earned merchant := by
    unfold earned
    rw [total_storePayment, hfresh]
    simp [Table.shareOf, Table.share, hq]
  simp only [booked, htotal, hearned]

theorem booked_sweepExpired (e : Engine) (moment : Moment) (merchant : MerchantId) :
    (e.sweepExpired moment).1.booked merchant = e.booked merchant := by
  have htotal (statuses : List PayoutStatus) :
      (e.sweepExpired moment).1.payoutTotal merchant statuses = e.payoutTotal merchant statuses := rfl
  have hearned : (e.sweepExpired moment).1.earned merchant = e.earned merchant := by
    refine Table.total_mapValues _ _ (fun id p => ?_) e.payments.records
    have hmerchant := Payment.merchantId_eq_of_draft (draft_swept moment id p)
    have hnet := Payment.netAmount_eq_of_draft (draft_swept moment id p)
    simp only [Table.share, hmerchant, hnet, swept_completed]
  simp only [booked, htotal, hearned]

theorem movement?_amount {p : Payout} {status : PayoutStatus} {op : LedgerOp} (h : movement? p status = some op) :
    op.amount = p.amount := by
  cases status with
  | requested | approved | processing => cases h
  | completed | rejected | failed =>
    cases h
    rfl

theorem exactBalance_storeBalance (e : Engine) (merchant other : MerchantId) (balance : Balance) :
    (e.storeBalance merchant balance).exactBalance other =
      if other = merchant then balance.exact else e.exactBalance other :=
  e.readBalance_storeBalance _ _ merchant other balance

theorem exactBalance_openAccount (e : Engine) (merchant other : MerchantId) (now : Instant) :
    ({ e with ledger := e.ledger.openAccount merchant now } : Engine).exactBalance other = e.exactBalance other :=
  e.readBalance_openAccount (fun _ _ => by simp [Balance.exact, Balance.opened, ExactBalance.zero])
    merchant other now

/-! ## Steps -/

structure Still (e next : Engine) : Prop where
  balance : ∀ merchant, next.exactBalance merchant = e.exactBalance merchant
  booked : ∀ merchant, next.booked merchant = e.booked merchant

/-- The step moves the money of one merchant, and the balance that the records account for alike. -/
structure Posts (e : Engine) (moment : Moment) (next : Engine) (merchant : MerchantId) (op : LedgerOp)
    (balance : Balance) : Prop where
  moved : e.Moves moment merchant op balance
  balance : ∀ other, next.exactBalance other = if other = merchant then balance.exact else e.exactBalance other
  booked : ∀ other, next.booked other = if other = merchant then (e.booked other).move op else e.booked other
  amount : ∀ s, next.InRange s → MultipleOf s op.amount.toRat

theorem Moves.positive {merchant : MerchantId} {op : LedgerOp} {balance : Balance}
    (h : e.Moves moment merchant op balance) : 0 < op.amount.toRat := by
  obtain ⟨row, -, -, happly⟩ := h
  exact positive_iff_toRat.mp (Balance.apply_eq_ok.mp happly).1

theorem Step.still_or_posts (h : Step e moment op next) (hindirect : op.Indirect) (hfresh : op.Fresh e) :
    Still e next ∨ ∃ merchant op balance, Posts e moment next merchant op balance := by
  cases h with
  | idle | rate | profile | tier | volume => exact .inl ⟨fun _ => rfl, fun _ => rfl⟩
  | register merchant tier =>
    exact .inl ⟨fun other => e.exactBalance_openAccount merchant other moment.now, fun _ => rfl⟩
  | account merchant =>
    exact .inl ⟨fun other => e.exactBalance_openAccount merchant other moment.now, fun _ => rfl⟩
  | move => exact hindirect.elim
  | invoice drafted unused =>
    have hp := drafted_of_ok drafted
    refine .inl ⟨fun _ => rfl, fun merchant => ?_⟩
    exact booked_storePayment_of_fresh (hp.id_eq.symm ▸ hfresh) (by rw [hp.status_eq]; exact nofun) merchant
  | advance located stored applied short =>
    obtain ⟨alive, -, hs⟩ := Payment.applyEvent_applied applied
    refine .inl ⟨fun _ => rfl, fun merchant => ?_⟩
    rw [booked_storePayment stored (Payment.not_completed_of_open alive), if_neg]
    exact fun h => short (hs.symm.trans h.2)
  | @complete event id p q source balance located stored applied credited =>
    obtain ⟨alive, hdraft, hs⟩ := Payment.applyEvent_applied applied
    refine .inr ⟨_, _, balance, credited, ?_, ?_, ?_⟩
    · exact fun other => e.exactBalance_storeBalance _ other balance
    · intro other
      have hbooked := booked_storePayment (e := e.storeBalance q.merchantId balance) stored (q := q)
        (Payment.not_completed_of_open alive) other
      simp only [hs, and_true] at hbooked
      exact hbooked
    · intro s hgrid
      refine hgrid.payments id q ?_ (positive_iff_toRat.mpr credited.positive)
      rw [payment?_countVolume, payment?_storePayment, if_pos rfl]
  | sweep => exact .inl ⟨fun _ => rfl, e.booked_sweepExpired moment⟩
  | @lapse _ id p read stored overdue =>
    have hp : p.status ≠ .completed := Payment.not_completed_of_overdue overdue
    refine .inl ⟨fun _ => rfl, fun merchant => ?_⟩
    rw [booked_storePayment stored hp, if_neg]
    exact fun h => hp ((Payment.expire_completed moment.now).mp h.2)
  | @request fresh request fee balance valid reserved =>
    refine .inr ⟨_, _, balance, reserved, ?_, ?_, ?_⟩
    · exact fun other => e.exactBalance_storeBalance _ other balance
    · intro other
      exact booked_storePayout_of_fresh (e := e.storeBalance request.merchantId balance) hfresh rfl other
    · intro s hgrid
      refine hgrid.payouts fresh (request.payout fresh fee none moment.now) ?_
      rw [payout?_storePayout, if_pos rfl]
  | @act id actor action p q source target stored acted still =>
    obtain ⟨alive, hdraft, hs, -⟩ := Payout.act_applied acted
    refine .inl ⟨fun _ => rfl, fun merchant => ?_⟩
    rw [booked_storePayout stored hdraft alive, hs, still]
    exact ite_self _
  | @finish id actor action p q source target op balance stored acted moves moved =>
    obtain ⟨alive, hdraft, hs, -⟩ := Payout.act_applied acted
    refine .inr ⟨_, _, balance, moved, ?_, ?_, ?_⟩
    · exact fun other => e.exactBalance_storeBalance _ other balance
    · intro other
      have hbooked := booked_storePayout (e := e.storeBalance q.merchantId balance) stored hdraft alive other
      rw [hs, moves] at hbooked
      exact hbooked
    · intro s hgrid
      rw [movement?_amount moves]
      refine hgrid.payouts id q ?_
      rw [payout?_storePayout, if_pos rfl]
  | @retry id fresh actor failed fee balance stored status first valid reserved =>
    refine .inr ⟨_, _, balance, reserved, ?_, ?_, ?_⟩
    · exact fun other => e.exactBalance_storeBalance _ other balance
    · intro other
      have hfailed := payout?_storePayout_of_fresh (e := e.storeBalance failed.merchantId balance) hfresh stored
        (q := failed.retried fresh actor fee moment.now)
      rw [booked_linked hfailed]
      exact booked_storePayout_of_fresh (e := e.storeBalance failed.merchantId balance) hfresh rfl other
    · intro s hgrid
      refine hgrid.payouts id (failed.linked fresh moment.now) ?_
      rw [payout?_storePayout, if_pos rfl]

theorem Positive.storePayment (he : e.Positive) {q : Payment} (hq : q.status = .completed → 0 < q.netAmount.toRat)
    (id : PaymentId) : (e.storePayment id q).Positive := by
  refine ⟨he.payouts, fun other p hp hc => ?_⟩
  rw [payment?_storePayment] at hp
  split at hp
  case isTrue =>
    cases hp
    exact hq hc
  case isFalse => exact he.completed other p hp hc

theorem Positive.storePayout (he : e.Positive) {q : Payout} (hq : 0 < q.amount.toRat) (id : PayoutId) :
    (e.storePayout id q).Positive := by
  refine ⟨fun other p hp => ?_, he.completed⟩
  rw [payout?_storePayout] at hp
  split at hp
  case isTrue =>
    cases hp
    exact hq
  case isFalse => exact he.payouts other p hp

/-- Only positive amounts are moved, so only such amounts come into completed payments and payouts. -/
theorem Positive.step (he : e.Positive) (h : Step e moment op next) : next.Positive := by
  cases h with
  | idle | register | rate | account | profile | tier | volume | move => exact ⟨he.payouts, he.completed⟩
  | @invoice fresh invoice p drafted =>
    have hs := (drafted_of_ok drafted).status_eq
    have hstored := he.storePayment (fun h => nomatch hs.symm.trans h) p.id
    exact ⟨hstored.payouts, hstored.completed⟩
  | advance located stored applied short =>
    obtain ⟨-, -, hs⟩ := Payment.applyEvent_applied applied
    exact he.storePayment (fun h => absurd (hs.symm.trans h) short) _
  | @complete event id p q source balance located stored applied credited =>
    have hstored := he.storePayment (fun _ => credited.positive) id
    exact ⟨hstored.payouts, hstored.completed⟩
  | sweep =>
    refine ⟨he.payouts, fun id q hq hc => ?_⟩
    rw [payment?_sweepExpired] at hq
    obtain ⟨p, hp, rfl⟩ := Option.map_eq_some_iff.mp hq
    rw [Payment.netAmount_eq_of_draft (draft_swept moment id p)]
    exact he.completed id p hp ((swept_completed moment id p).mp hc)
  | @lapse _ id p read stored overdue =>
    refine he.storePayment (fun hc => ?_) id
    rw [Payment.netAmount_eq_of_draft (p.draft_expire moment.now)]
    exact he.completed id p stored ((Payment.expire_completed moment.now).mp hc)
  | @request fresh request fee balance valid reserved =>
    have hstored := he.storePayout (q := request.payout fresh fee none moment.now) reserved.positive fresh
    exact ⟨hstored.payouts, hstored.completed⟩
  | @act id actor action p q source target stored acted still =>
    obtain ⟨-, hdraft, -⟩ := Payout.act_applied acted
    refine he.storePayout ?_ id
    rw [Payout.amount_eq_of_draft hdraft]
    exact he.payouts id p stored
  | @finish id actor action p q source target op balance stored acted moves moved =>
    have hstored := he.storePayout (q := q) (movement?_amount moves ▸ moved.positive) id
    exact ⟨hstored.payouts, hstored.completed⟩
  | @retry id fresh actor failed fee balance stored status first valid reserved =>
    have hretry := he.storePayout reserved.positive fresh
      (q := failed.retried fresh actor fee moment.now)
    have hlinked := hretry.storePayout (q := failed.linked fresh moment.now) reserved.positive id
    exact ⟨hlinked.payouts, hlinked.completed⟩

theorem Step.income_eq (h : Step e moment op next) (hfresh : op.Fresh e) : next.income = e.income ∨
    ∃ fresh invoice p, op = .createInvoice fresh invoice ∧ e.draftPayment fresh invoice moment.now = .ok p ∧
      next.income = e.income + Table.share (fun p : Payment => p.netAmount.Positive) (fun p => p.netAmount.toRat) p := by
  cases h with
  | idle | register | rate | account | profile | tier | volume | move | request | act | finish | retry => exact .inl rfl
  | @invoice fresh invoice p drafted unused =>
    have hnone : e.payment? p.id = none := (drafted_of_ok drafted).id_eq.symm ▸ hfresh
    refine .inr ⟨fresh, invoice, p, rfl, drafted, ?_⟩
    show (e.storePayment p.id p).income = _
    unfold income
    rw [total_storePayment, hnone]
    simp [Table.shareOf]
  | advance located stored applied =>
    obtain ⟨-, hdraft, -⟩ := Payment.applyEvent_applied applied
    exact .inl (income_storePayment stored hdraft)
  | @complete event id p q source balance located stored applied =>
    obtain ⟨-, hdraft, -⟩ := Payment.applyEvent_applied applied
    exact .inl (income_storePayment (e := e.storeBalance q.merchantId balance) stored hdraft)
  | sweep =>
    refine .inl (Table.total_mapValues _ _ (fun id p => ?_) e.payments.records)
    have hnet := Payment.netAmount_eq_of_draft (draft_swept moment id p)
    simp only [Table.share, hnet]
  | @lapse _ id p read stored => exact .inl (income_storePayment stored (p.draft_expire moment.now))

theorem Step.income_le (h : Step e moment op next) (hfresh : op.Fresh e) : e.income ≤ next.income := by
  obtain hsame | ⟨_, _, p, -, -, hmore⟩ := h.income_eq hfresh
  · exact le_of_eq hsame.symm
  · rw [hmore]
    exact le_add_of_nonneg_right (Table.share_nonneg fun hp => le_of_lt (positive_iff_toRat.mp hp))

theorem InRange.before (hnext : next.InRange s) (h : Step e moment op next) (hfresh : op.Fresh e) : e.InRange s where
  payments id p hp hpositive := by
    obtain ⟨q, hq, hdraft⟩ := h.payment_persists hfresh hp
    have hnet : q.netAmount = p.netAmount := Payment.netAmount_eq_of_draft hdraft
    exact hnet ▸ hnext.payments id q hq (hnet.symm ▸ hpositive)
  payouts id p hp := by
    obtain ⟨q, hq, hdraft⟩ := h.payout_persists hfresh hp
    rw [← Payout.amount_eq_of_draft hdraft]
    exact hnext.payouts id q hq
  income_lt := lt_of_le_of_lt (h.income_le hfresh) hnext.income_lt

theorem Booked.exact_eq (he : e.Booked) {merchant : MerchantId} {row : Balance}
    (hrow : e.balance? merchant = some row) : row.exact = e.booked merchant := by
  rw [← he.balance_eq merchant, exactBalance, readBalance, hrow]
  rfl

theorem Booked.step (hs : s ≤ 28) (he : e.Booked) (h : Step e moment op next) (hindirect : op.Indirect)
    (hfresh : op.Fresh e) (hrange : next.InRange s) : next.Booked := by
  have hpositive : next.Positive := he.toPositive.step h
  obtain hstill | ⟨merchant, op, balance, hposts⟩ := h.still_or_posts hindirect hfresh
  · refine ⟨hpositive, fun merchant => ?_, fun merchant => ?_⟩
    · rw [hstill.booked]
      exact he.available_nonneg merchant
    · rw [hstill.balance, hstill.booked]
      exact he.balance_eq merchant
  obtain ⟨row, hrow, -, happly⟩ := hposts.moved
  have hexact : row.exact = e.booked merchant := he.exact_eq hrow
  have hamount : 0 < op.amount.toRat := hposts.moved.positive
  -- the records never account for less than nothing, as a reservation is covered
  have havailable (other : MerchantId) : 0 ≤ (next.booked other).available := by
    have hbefore := he.available_nonneg other
    rw [hposts.booked]
    split
    case isFalse => exact hbefore
    case isTrue ho =>
      subst ho
      cases op with
      | credit amount => exact add_nonneg hbefore (le_of_lt hamount)
      | release amount => exact add_nonneg hbefore (le_of_lt hamount)
      | settle amount => exact hbefore
      | reserve amount =>
        obtain ⟨-, m, ⟨hcovered, -⟩, -⟩ := Balance.apply_eq_ok.mp happly
        rw [le_iff_toRat] at hcovered
        rw [← hexact]
        exact sub_nonneg.mpr hcovered
  have hwithin := booked_within hpositive merchant (havailable merchant) hrange.income_lt
  rw [hposts.booked, if_pos rfl, ← hexact] at hwithin
  obtain ⟨reached, hreached, hmoved⟩ := Balance.apply_of_within hs moment.now
    (hexact ▸ booked_onGrid he.toPositive (hrange.before h hfresh) merchant) (hposts.amount s hrange)
    (positive_iff_toRat.mpr hamount) hwithin
  cases hreached.symm.trans happly
  refine ⟨hpositive, havailable, fun other => ?_⟩
  rw [hposts.balance, hposts.booked]
  split
  case isTrue ho => rw [hmoved, hexact, ho]
  case isFalse => exact he.balance_eq other

theorem booked_opened (config : SettlementConfig) : (opened config).Booked := by
  have hpositive : (opened config).Positive := ⟨fun _ _ => nofun, fun _ _ => nofun⟩
  have hbooked (merchant : MerchantId) : (opened config).booked merchant = .zero := by
    simp [booked, earned, payoutTotal, opened, ExactBalance.zero]
  refine ⟨hpositive, fun merchant => ?_, fun merchant => ?_⟩
  · rw [hbooked]
    exact le_refl (0 : ℚ)
  · rw [hbooked]
    rfl

/-- After a run whose records stay on a grid the balances are those that the records account for. -/
theorem Booked.run (hs : s ≤ 28) (config : SettlementConfig) {ops : List (Moment × Operation)}
    (h : (opened config).Regular ops) (hgrid : ((opened config).run ops).OnGrid s) :
    ((opened config).run ops).Booked := by
  refine h.preserved (P := fun e => e.InRange s → e.Booked) ?_ (fun _ => booked_opened config) hgrid.inRange
  intro e next moment op hstep hindirect hfresh he hrange
  exact (he (hrange.before hstep hfresh)).step hs hstep hindirect hfresh hrange

end Engine
end Settlement
