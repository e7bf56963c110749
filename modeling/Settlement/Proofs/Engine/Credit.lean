import Settlement.Proofs.Balance.Movement
import Settlement.Proofs.Decimal.Value
import Settlement.Proofs.Engine.Atomicity
import Settlement.Proofs.Engine.Completions
import Settlement.Proofs.Engine.Run

/-! What merchants have received. The only step that credits a merchant is the one that
completes a payment, and a completed payment stays as it is. -/
namespace Settlement
namespace Engine

def received (e : Engine) : MerchantId → Decimal := e.readBalance Balance.totalReceived .zero

def credits (e : Engine) (merchant : MerchantId) (ids : List PaymentId) : List Decimal :=
  ((ids.filterMap e.payment?).filter fun p => p.merchantId = merchant).map Payment.netAmount

/-- The list names the completed payments, each of them once, and every merchant has received the sum
of its payments in the order of the list. -/
structure Credited (e : Engine) (order : List PaymentId) : Prop where
  nodup : order.Nodup
  mem_iff : ∀ id, id ∈ order ↔ ∃ p, e.payment? id = some p ∧ p.status = .completed
  received_eq : ∀ merchant, Decimal.sum? (e.credits merchant order) = some (e.received merchant)

theorem Credited.listed {e : Engine} {order : List PaymentId} (h : e.Credited order) : e.Listed order :=
  ⟨h.nodup, h.mem_iff⟩

/-! ## What a merchant has received -/

theorem received_storeBalance (e : Engine) (merchant other : MerchantId) (balance : Balance) :
    (e.storeBalance merchant balance).received other =
      if other = merchant then balance.totalReceived else e.received other :=
  e.readBalance_storeBalance _ _ merchant other balance

theorem received_openAccount (e : Engine) (merchant other : MerchantId) (now : Instant) :
    ({ e with ledger := e.ledger.openAccount merchant now } : Engine).received other = e.received other :=
  e.readBalance_openAccount (fun _ _ => rfl) merchant other now

theorem received_of_balance? {e : Engine} {merchant : MerchantId} {row : Balance}
    (hrow : e.balance? merchant = some row) : e.received merchant = row.totalReceived := by
  rw [received, readBalance, hrow]
  rfl

theorem Moves.received_credit {e : Engine} {moment : Moment} {merchant : MerchantId} {amount : Decimal}
    {balance : Balance} (h : e.Moves moment merchant (.credit amount) balance) :
    (e.received merchant).add? amount = some balance.totalReceived := by
  obtain ⟨row, hrow, -, happly⟩ := h
  obtain ⟨-, m, ⟨available, totalReceived, -, ht, rfl⟩, -, rfl⟩ := Balance.apply_eq_ok.mp happly
  rw [received_of_balance? hrow, ht]

theorem Moves.received_of_not_credit {e : Engine} {moment : Moment} {merchant : MerchantId} {op : LedgerOp}
    {balance : Balance} (h : e.Moves moment merchant op balance) (hop : ∀ amount, op ≠ .credit amount) :
    balance.totalReceived = e.received merchant := by
  obtain ⟨row, hrow, -, happly⟩ := h
  obtain ⟨-, m, hm, -, rfl⟩ := Balance.apply_eq_ok.mp happly
  cases op with
  | credit amount => exact absurd rfl (hop amount)
  | reserve amount =>
    obtain ⟨-, available, pending, -, -, rfl⟩ := hm
    exact (received_of_balance? hrow).symm
  | release amount =>
    obtain ⟨pending, available, -, -, rfl⟩ := hm
    exact (received_of_balance? hrow).symm
  | settle amount =>
    obtain ⟨pending, totalPaidOut, -, -, rfl⟩ := hm
    exact (received_of_balance? hrow).symm

theorem Moves.received_storeBalance {e : Engine} {moment : Moment} {merchant : MerchantId} {op : LedgerOp}
    {balance : Balance} (h : e.Moves moment merchant op balance) (hop : ∀ amount, op ≠ .credit amount)
    (other : MerchantId) : (e.storeBalance merchant balance).received other = e.received other := by
  rw [Engine.received_storeBalance, h.received_of_not_credit hop]
  split
  case isTrue ho => rw [ho]
  case isFalse => rfl

theorem movement?_ne_credit {p : Payout} {status : PayoutStatus} {op : LedgerOp} (h : movement? p status = some op)
    (amount : Decimal) : op ≠ .credit amount := by
  rintro rfl
  cases status <;> simp [movement?] at h

structure Completes (e next : Engine) (id : PaymentId) (p : Payment) : Prop where
  before : e.isCompleted id = false
  stored : next.payment? id = some p
  status : p.status = .completed
  others : ∀ other, other ≠ id → next.isCompleted other = e.isCompleted other
  credited : (e.received p.merchantId).add? p.netAmount = some (next.received p.merchantId)
  unpaid : ∀ merchant, merchant ≠ p.merchantId → next.received merchant = e.received merchant

theorem Completes.finishes {e next : Engine} {id : PaymentId} {p : Payment} (h : Completes e next id p) :
    Finishes e next id p :=
  ⟨h.before, h.stored, h.status, h.others⟩

structure Quiet (e next : Engine) : Prop where
  completed : ∀ id, next.isCompleted id = e.isCompleted id
  received : ∀ merchant, next.received merchant = e.received merchant

theorem Step.quiet_or_completes {e next : Engine} {moment : Moment} {op : Operation} (h : Step e moment op next)
    (hindirect : op.Indirect) (hfresh : op.Fresh e) : Quiet e next ∨ ∃ id p, Completes e next id p := by
  cases h with
  | idle | rate | profile | tier | volume | act => exact .inl ⟨fun _ => rfl, fun _ => rfl⟩
  | register merchant tier =>
    exact .inl ⟨fun _ => rfl, fun other => e.received_openAccount merchant other moment.now⟩
  | account merchant => exact .inl ⟨fun _ => rfl, fun other => e.received_openAccount merchant other moment.now⟩
  | move => exact hindirect.elim
  | @invoice fresh invoice p drafted unused =>
    exact .inl ⟨isCompleted_invoice drafted hfresh, fun _ => rfl⟩
  | advance located stored applied short => exact .inl ⟨isCompleted_of_short stored applied short, fun _ => rfl⟩
  | @complete event id p next source balance located stored applied credited =>
    have hdone := finishes_of_applied stored applied balance
    refine .inr ⟨id, next, hdone.before, hdone.stored, hdone.status, hdone.others, ?_, ?_⟩
    · rw [credited.received_credit]
      exact congrArg some ((e.received_storeBalance _ _ balance).trans (if_pos rfl)).symm
    · intro merchant hne
      exact (e.received_storeBalance _ _ balance).trans (if_neg hne)
  | sweep => exact .inl ⟨e.isCompleted_sweepExpired moment, fun _ => rfl⟩
  | lapse read stored overdue =>
    exact .inl ⟨isCompleted_storePayment_of_iff stored (Payment.expire_completed moment.now), fun _ => rfl⟩
  | request valid reserved =>
    exact .inl ⟨fun _ => rfl, reserved.received_storeBalance fun _ => nofun⟩
  | finish stored acted moves moved =>
    exact .inl ⟨fun _ => rfl, moved.received_storeBalance (movement?_ne_credit moves)⟩
  | retry stored status first valid reserved =>
    exact .inl ⟨fun _ => rfl, reserved.received_storeBalance fun _ => nofun⟩

/-! ## Credits along a run -/

theorem credits_congr {e next : Engine} {order : List PaymentId}
    (h : ∀ id ∈ order, next.payment? id = e.payment? id) (merchant : MerchantId) :
    next.credits merchant order = e.credits merchant order :=
  congrArg (List.map Payment.netAmount) (paymentsTo_congr h merchant)

theorem credits_concat {e : Engine} {id : PaymentId} {p : Payment} (hp : e.payment? id = some p)
    (merchant : MerchantId) (order : List PaymentId) :
    e.credits merchant (order ++ [id]) =
      e.credits merchant order ++ if p.merchantId = merchant then [p.netAmount] else [] := by
  show (e.paymentsTo merchant (order ++ [id])).map Payment.netAmount = _
  rw [paymentsTo_concat hp, List.map_append]
  split <;> rfl

theorem Credited.step {e next : Engine} {order : List PaymentId} {moment : Moment} {op : Operation}
    (he : e.Credited order) (h : Step e moment op next) (hindirect : op.Indirect) (hfresh : op.Fresh e) :
    next.Credited (order ++ next.completedSince e) := by
  have hkept := he.listed.kept h hfresh
  obtain hquiet | ⟨id, p, hdone⟩ := h.quiet_or_completes hindirect hfresh
  · rw [completedSince_of_same hquiet.completed, List.append_nil]
    obtain ⟨hnodup, hmem⟩ := he.listed.of_same hquiet.completed
    refine ⟨hnodup, hmem, fun merchant => ?_⟩
    rw [credits_congr hkept, hquiet.received]
    exact he.received_eq merchant
  · rw [completedSince_of_finishes hdone.finishes]
    obtain ⟨hnodup, hmem⟩ := he.listed.of_finishes hdone.finishes
    refine ⟨hnodup, hmem, fun merchant => ?_⟩
    rw [credits_concat hdone.stored, credits_congr hkept]
    by_cases hm : p.merchantId = merchant
    · subst hm
      rw [if_pos rfl, Decimal.sum?_concat, he.received_eq]
      exact hdone.credited
    · rw [if_neg hm, List.append_nil, hdone.unpaid merchant (Ne.symm hm)]
      exact he.received_eq merchant

theorem Credited.run {e : Engine} {order : List PaymentId} (he : e.Credited order)
    {steps : List (Moment × Operation)} (hsingle : ∀ step ∈ steps, step.2.Single) (hsteps : e.Regular steps) :
    (e.run steps).Credited (order ++ e.completions steps) := by
  induction steps generalizing e order with
  | nil => simpa [completions, Engine.run] using he
  | cons step rest ih =>
    obtain ⟨moment, op⟩ := step
    obtain ⟨⟨hindirect, hfresh⟩, hrest⟩ := hsteps
    obtain ⟨hop, hsingle⟩ := List.forall_mem_cons.mp hsingle
    rw [completions, ← List.append_assoc]
    exact ih (he.step (e.perform_step moment op hop) hindirect hfresh) hsingle hrest

theorem credited_opened (config : SettlementConfig) : (opened config).Credited [] :=
  ⟨(listed_opened config).nodup, (listed_opened config).mem_iff, fun _ => rfl⟩

/-- In every state of a run, also between the events of a series, each merchant has received the sum of the
net amounts of its completed payments in the order in which they completed. Each step completes one
payment and credits that, or it does neither. -/
theorem received_eq_sum_of_completed (config : SettlementConfig) (ops : List (Moment × Operation))
    (h : (opened config).Regular ops) :
    let start := opened config
    start.run (start.steps ops) = start.run ops ∧
      (∀ done, done <+: start.steps ops → (start.run done).Credited (start.completions done)) ∧
      ∀ done moment op, done ++ [(moment, op)] <+: start.steps ops →
        let e := start.run done
        let next := (e.perform moment op).1
        Quiet e next ∨ ∃ id p, Completes e next id p := by
  intro start
  have hsingle : ∀ step ∈ start.steps ops, step.2.Single := start.single_steps ops
  have hsteps : start.Regular (start.steps ops) := h.steps
  refine ⟨start.run_steps ops, ?_, ?_⟩
  · rintro done ⟨rest, hrest⟩
    rw [← hrest] at hsingle hsteps
    exact (credited_opened config).run (List.forall_mem_append.mp hsingle).1 (regular_append.mp hsteps).1
  · rintro done moment op ⟨rest, hrest⟩ e next
    rw [← hrest, List.append_assoc] at hsingle hsteps
    obtain ⟨⟨hindirect, hfresh⟩, -⟩ := (regular_append.mp hsteps).2
    have hop : op.Single := hsingle (moment, op) (by simp)
    exact (e.perform_step moment op hop).quiet_or_completes hindirect hfresh

def paidTwice : List (Moment × Operation) := invoiced ++ [(⟨.epoch, {}⟩, paid), (⟨.epoch, {}⟩, paid)]

/-- Its merchant is credited with it once. -/
theorem paid_invoice_credited_once :
    (opened .default).Regular paidTwice ∧ ((opened .default).run paidTwice).Credited [⟨7⟩] := by
  have hregular : (opened .default).Regular paidTwice := by
    refine ⟨⟨trivial, trivial⟩, ⟨trivial, trivial⟩, ⟨trivial, trivial⟩, ⟨trivial, rfl⟩, ?_⟩
    exact ⟨⟨trivial, trivial⟩, ⟨trivial, trivial⟩, trivial⟩
  have hsteps : (opened .default).steps paidTwice = paidTwice := rfl
  have horder : (opened .default).completions paidTwice = [⟨7⟩] := rfl
  obtain ⟨-, hcredited, -⟩ := received_eq_sum_of_completed .default paidTwice hregular
  rw [hsteps] at hcredited
  refine ⟨hregular, ?_⟩
  rw [← horder]
  exact hcredited paidTwice (List.prefix_refl _)

end Engine
end Settlement
