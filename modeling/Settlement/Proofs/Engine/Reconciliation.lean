import Settlement.Proofs.Engine.Atomicity
import Settlement.Proofs.Engine.Books
import Settlement.Proofs.Engine.Handling

/-! The balances of merchants and their payouts reconcile, and no action on a payout runs
into the check of the balance. -/
namespace Settlement

open Decimal

def Fault.violation (reason : String) : Fault := .refused (.ledgerInvariantViolation reason)

namespace Balance

variable {b : Balance} {s : Nat} {reason : String}

theorem apply_ne_violation (hs : s ≤ 28) {op : LedgerOp} (now : Instant) (hgrid : b.exact.OnGrid s)
    (hamount : MultipleOf s op.amount.toRat) (hwithin : b.exact.Within (2 ^ 96 / 10 ^ s))
    (hcovers : op.amount.Positive → b.exact.Covers (2 ^ 96 / 10 ^ s) op) :
    b.apply op now ≠ .error (.violation reason) := by
  by_cases hp : op.amount.Positive
  · have hnonneg : 0 ≤ op.amount.toRat := le_of_lt (positive_iff_toRat.mp hp)
    obtain ⟨next, hnext, -⟩ := apply_of_within hs now hgrid hamount hp (hwithin.move hnonneg (hcovers hp))
    rw [hnext]
    intro h
    cases h
  · rw [apply, check_of_not hp]
    intro h
    cases h

theorem reserve_ne_violation (hs : s ≤ 28) (now : Instant) (hgrid : b.exact.OnGrid s) {amount : Decimal}
    (hamount : MultipleOf s amount.toRat) (hwithin : b.exact.Within (2 ^ 96 / 10 ^ s)) :
    b.apply (.reserve amount) now ≠ .error (.violation reason) := by
  by_cases hcovered : amount ≤ b.available
  · exact apply_ne_violation hs now hgrid hamount hwithin fun _ => le_iff_toRat.mp hcovered
  · have hmoved : b.moved (.reserve amount) = .error (.refused .insufficientFunds) := by
      rw [moved, check_of_not hcovered]
      rfl
    rw [apply, hmoved]
    refine bind_ne_error (check_ne_error ?_) fun _ => ?_
    · intro h
      cases h
    · intro h
      cases h

end Balance

theorem Payout.act_ne_violation (p : Payout) (actor : ActorId) (now : Instant) (action : PayoutAction)
    (reason : String) : p.act actor now action ≠ .error (.violation reason) := by
  have htext (text : String) {missing : SettlementError} (h : Fault.violation reason ≠ .refused missing) :
      requireText text missing ≠ .error (.violation reason) :=
    bind_ne_error (check_ne_error h) fun _ => nofun
  cases action with
  | approve =>
    unfold act Payout.approve
    cases p.status <;> exact nofun
  | startProcessing =>
    unfold act Payout.startProcessing
    cases p.status <;> exact nofun
  | complete text =>
    unfold act Payout.complete
    cases p.status with
    | requested | completed | rejected | failed => exact nofun
    | approved | processing => exact bind_ne_error (htext text nofun) fun _ => nofun
  | reject text =>
    unfold act Payout.reject
    cases p.status with
    | approved | processing | completed | rejected | failed => exact nofun
    | requested => exact bind_ne_error (htext text nofun) fun _ => nofun
  | fail text =>
    unfold act Payout.fail
    cases p.status with
    | requested | completed | rejected | failed => exact nofun
    | approved | processing => exact bind_ne_error (htext text nofun) fun _ => nofun

theorem PayoutRequest.validate_ne_violation (r : PayoutRequest) (config : SettlementConfig) (reason : String) :
    r.validate config ≠ .error (.violation reason) := by
  have hbank : r.bank.validate ≠ .error (.violation reason) :=
    bind_ne_error (check_ne_error nofun) fun _ => bind_ne_error (check_ne_error nofun) fun _ => check_ne_error nofun
  have hfee : Exchange.computeFee r.amount config.payoutFeePercent config.settlementCurrency ≠
      .error (.violation reason) :=
    bind_ne_error (check_ne_error nofun) fun _ => bind_ne_error (check_ne_error nofun) fun _ =>
      bind_ne_error (require_ne_error nofun) fun _ => bind_ne_error (unguarded_ne_error nofun) fun _ =>
      bind_ne_error (unguarded_ne_error nofun) fun _ => nofun
  exact bind_ne_error (check_ne_error nofun) fun _ => bind_ne_error (check_ne_error nofun) fun _ =>
    bind_ne_error hbank fun _ => hfee

namespace Engine

open Engine.Action PayoutStatus

variable {e : Engine} {s : Nat} {reason : String}

theorem Positive.amount_le_pending (he : e.Positive) {id : PayoutId} {p : Payout} (stored : e.payout? id = some p)
    (alive : p.status.isTerminal = false) : p.amount.toRat ≤ (e.booked p.merchantId).pending :=
  Table.value_le_total (fun other q hq _ => le_of_lt (he.payouts other q hq)) stored ⟨rfl, mem_reserving.mpr alive⟩

theorem Booked.moveFor_ne_violation (hs : s ≤ 28) (he : e.Booked) (hgrid : e.OnGrid s) (moment : Moment)
    {id : PayoutId} {p next : Payout} {target : PayoutStatus} (stored : e.payout? id = some p)
    (alive : p.status.isTerminal = false) (same : next.draft = p.draft) :
    ((moveFor moment next target).on e).2 ≠ .error (.violation reason) := by
  unfold moveFor
  cases hop : movement? next target with
  | none => exact nofun
  | some op =>
    have hmoney : ((moveMoney moment next.merchantId op).on e).2 ≠ .error (.violation reason) := by
      refine moveMoney_ne_error (fun _ => nofun) nofun fun row hrow => ?_
      rw [Payout.merchantId_eq_of_draft same] at hrow
      have hexact : row.exact = e.booked p.merchantId := he.exact_eq hrow
      have hamount : op.amount = p.amount := (movement?_amount hop).trans (Payout.amount_eq_of_draft same)
      have hpending : op.amount.toRat ≤ row.exact.pending := by
        rw [hamount, hexact]
        exact he.amount_le_pending stored alive
      refine Balance.apply_ne_violation hs moment.now (hexact ▸ booked_onGrid he.toPositive hgrid.inRange _)
        (hamount ▸ hgrid.payouts id p stored)
        (hexact ▸ booked_within he.toPositive _ (he.available_nonneg _) hgrid.income_lt) fun _ => ?_
      cases target with
      | requested | approved | processing => cases hop
      | completed | rejected | failed =>
        cases hop
        exact hpending
    exact on_bind_ne_error hmoney fun _ _ => nofun

theorem Booked.actOnPayout_ne_violation (hs : s ≤ 28) (he : e.Booked) (hgrid : e.OnGrid s) (moment : Moment)
    (id : PayoutId) (actor : ActorId) (action : PayoutAction) :
    (e.perform moment (.actOnPayout id actor action)).2 ≠ .error (.violation reason) := by
  refine on_map_ne_error ?_
  unfold Engine.actOnPayout
  rw [on_get_bind]
  refine on_lift_bind_ne_error (lockPayout_ne_error nofun nofun) fun p hp => ?_
  refine on_lift_bind_ne_error (p.act_ne_violation actor moment.now action reason) fun ⟨next, transition⟩ ha => ?_
  cases transition with
  | unchanged status => exact nofun
  | applied source target =>
    obtain ⟨alive, hdraft, -⟩ := Payout.act_applied ha
    have hmoney : ((moveFor moment next target).on e).2 ≠ .error (.violation reason) :=
      he.moveFor_ne_violation hs hgrid moment (lockPayout_eq_ok.mp hp).1 alive hdraft
    exact on_bind_ne_error hmoney fun _ _ => nofun

theorem Booked.openPayout_ne_violation (hs : s ≤ 28) (he : e.Booked) (hgrid : e.OnGrid s) (moment : Moment)
    (fresh : PayoutId) (request : PayoutRequest) (retry : Option Retry)
    (hamount : MultipleOf s request.amount.toRat) :
    ((openPayout moment fresh request retry).on e).2 ≠ .error (.violation reason) := by
  unfold openPayout
  rw [on_get_bind]
  refine on_lift_bind_ne_error (request.validate_ne_violation e.config reason) fun fee _ => ?_
  refine on_bind_ne_error (moveMoney_ne_error (fun _ => nofun) nofun fun row hrow => ?_) fun _ _ => nofun
  have hexact : row.exact = e.booked request.merchantId := he.exact_eq hrow
  exact Balance.reserve_ne_violation hs moment.now (hexact ▸ booked_onGrid he.toPositive hgrid.inRange _) hamount
    (hexact ▸ booked_within he.toPositive _ (he.available_nonneg _) hgrid.income_lt)

theorem Booked.resubmit_ne_violation (hs : s ≤ 28) (he : e.Booked) (hgrid : e.OnGrid s) (moment : Moment)
    (id fresh : PayoutId) (actor : ActorId) :
    (e.perform moment (.resubmit id fresh actor)).2 ≠ .error (.violation reason) := by
  refine on_map_ne_error ?_
  unfold Engine.resubmit
  rw [on_get_bind]
  refine on_lift_bind_ne_error (lockPayout_ne_error nofun nofun) fun failed hfailed => ?_
  refine on_lift_bind_ne_error (check_ne_error nofun) fun _ _ => ?_
  cases failed.resubmittedAs with
  | some retryId =>
    exact lockPayout_ne_error (e := e) nofun nofun
  | none =>
    have hamount : MultipleOf s failed.amount.toRat := hgrid.payouts id failed (lockPayout_eq_ok.mp hfailed).1
    exact on_bind_ne_error (he.openPayout_ne_violation hs hgrid moment fresh _ _ hamount) fun _ _ => nofun

/-- As long as all amounts are multiples of `10 ^ -s` and the payments together are within the range of
decimals at that scale, each merchant's pending funds are the amounts of its payouts that are requested,
approved or processing, what it was paid out are the amounts of the completed ones, and the rest of what
it received is available. No action on a payout, nor a second attempt at one, violates the check of a
balance then. -/
theorem balances_reconcile_with_payouts (s : Nat) (hs : s ≤ 28) (config : SettlementConfig)
    (ops : List (Moment × Operation)) (h : (opened config).Regular ops)
    (hgrid : ((opened config).run ops).OnGrid s) :
    let e := (opened config).run ops
    (∀ merchant,
      let balance := e.exactBalance merchant
      balance.pending = e.payoutTotal merchant [.requested, .approved, .processing] ∧
      balance.totalPaidOut = e.payoutTotal merchant [.completed] ∧
      balance.available = balance.totalReceived - balance.pending - balance.totalPaidOut) ∧
    ∀ moment id fresh actor action reason,
      (e.perform moment (.actOnPayout id actor action)).2 ≠ .error (.refused (.ledgerInvariantViolation reason)) ∧
      (e.perform moment (.resubmit id fresh actor)).2 ≠ .error (.refused (.ledgerInvariantViolation reason)) := by
  intro e
  have he : e.Booked := Booked.run hs config h hgrid
  refine ⟨fun merchant => ?_, fun moment id fresh actor action reason => ?_⟩
  · intro balance
    have hbooked : balance = e.booked merchant := he.balance_eq merchant
    have hpending : balance.pending = e.payoutTotal merchant reserving := congrArg ExactBalance.pending hbooked
    have hpaid : balance.totalPaidOut = e.payoutTotal merchant [.completed] :=
      congrArg ExactBalance.totalPaidOut hbooked
    have hreceived : balance.totalReceived = e.earned merchant := congrArg ExactBalance.totalReceived hbooked
    have havailable : balance.available = e.earned merchant - e.payoutTotal merchant reserving -
        e.payoutTotal merchant [.completed] := congrArg ExactBalance.available hbooked
    exact ⟨hpending, hpaid, by rw [havailable, hreceived, hpending, hpaid]⟩
  · exact ⟨he.actOnPayout_ne_violation hs hgrid moment id actor action,
      he.resubmit_ne_violation hs hgrid moment id fresh actor⟩

/-- The merchant of the paid invoice asks for 1,000,000 dong of the 2,475,000 that it received, and that is
approved. -/
def withdrawn : List (Moment × Operation) :=
  let now : Moment := ⟨.epoch, {}⟩
  let bank : BankDetails := ⟨"Bank", "123456", "Shop", none⟩
  invoiced ++ [(now, paid), (now, .requestPayout ⟨9⟩ ⟨⟨1⟩, whole 1000000, bank, ⟨"shop"⟩⟩),
    (now, .actOnPayout ⟨9⟩ ⟨"desk"⟩ .approve)]

theorem withdrawn_onGrid : ((opened .default).run withdrawn).OnGrid 0 := by
  have hnets : ((opened .default).run withdrawn).payments.records.values.map (·.netAmount) = [.ofNat 2475000] := by
    decide +kernel
  have hamounts : ((opened .default).run withdrawn).payouts.values.map (·.amount) = [.ofNat 1000000] := by
    decide +kernel
  obtain ⟨p, hp, hnet⟩ := List.map_eq_singleton_iff.mp hnets
  obtain ⟨q, hq, hamount⟩ := List.map_eq_singleton_iff.mp hamounts
  refine ⟨fun id r hr => ?_, fun id r hr => ?_, ?_⟩
  · have hr' := Table.mem_values_iff.mpr ⟨id, hr⟩
    rw [hp, List.mem_singleton] at hr'
    exact ⟨2475000, by simp [hr', hnet]⟩
  · have hr' := Table.mem_values_iff.mpr ⟨id, hr⟩
    rw [hq, List.mem_singleton] at hr'
    exact ⟨1000000, by simp [hr', hamount]⟩
  · have hpositive : p.netAmount.Positive := by
      rw [hnet]
      decide
    have hfilter : [p].filter (fun p : Payment => p.netAmount.Positive) = [p] := by simp [hpositive]
    have hincome : ((opened .default).run withdrawn).income = 2475000 := by
      rw [income, Table.total, hp, hfilter]
      simp [hnet]
    rw [hincome]
    norm_num

/-- Its approved payout of 1,000,000 dong is what is pending. -/
theorem approved_payout_is_pending :
    let e := (opened .default).run withdrawn
    (opened .default).Regular withdrawn ∧ e.OnGrid 0 ∧ (e.payout? ⟨9⟩).map (·.status) = some .approved ∧
      (e.exactBalance ⟨1⟩).pending = e.payoutTotal ⟨1⟩ [.requested, .approved, .processing] ∧
      (e.exactBalance ⟨1⟩).pending = 1000000 := by
  intro e
  have hregular : (opened .default).Regular withdrawn := by
    refine ⟨⟨trivial, trivial⟩, ⟨trivial, trivial⟩, ⟨trivial, trivial⟩, ⟨trivial, rfl⟩, ?_⟩
    exact ⟨⟨trivial, trivial⟩, ⟨trivial, rfl⟩, ⟨trivial, trivial⟩, trivial⟩
  obtain ⟨hbalances, -⟩ :=
    balances_reconcile_with_payouts 0 (by decide) .default withdrawn hregular withdrawn_onGrid
  have hpending := (hbalances ⟨1⟩).1
  have happroved : (e.payout? ⟨9⟩).map (·.status) = some .approved := by decide +kernel
  have hexact : (e.exactBalance ⟨1⟩).pending = 1000000 := by
    have hstored : ∃ row, e.balance? ⟨1⟩ = some row := Option.isSome_iff_exists.mp (by decide +kernel)
    obtain ⟨row, hrow⟩ := hstored
    have hamounts : ∀ row ∈ e.balance? ⟨1⟩, row.pending = .ofNat 1000000 := by decide +kernel
    have hread : e.exactBalance ⟨1⟩ = row.exact := by
      rw [exactBalance, readBalance, hrow]
      rfl
    rw [hread, Balance.exact, hamounts row hrow, Decimal.toRat_ofNat]
    norm_num
  exact ⟨hregular, withdrawn_onGrid, happroved, hpending, hexact⟩

end Engine
end Settlement
