import Settlement.Proofs.Engine.Journal
import Settlement.Proofs.Engine.Reconciliation

/-! The money of an open payout is there. As long as no amount is rounded, each action that its status allows is carried
out, and one of them gives the money back. -/
namespace Settlement

open Decimal

def PayoutStatus.giveUp (reason : String) : PayoutStatus → PayoutAction
  | requested => .reject reason
  | approved | processing | completed | rejected | failed => .fail reason

theorem Payout.act_giveUp {p : Payout} (alive : p.status.isTerminal = false) {reason : String}
    (named : Text.isBlankString reason = false) (actor : ActorId) (now : Instant) :
    ∃ q, p.act actor now (p.status.giveUp reason) = .ok (q, .applied p.status q.status) ∧
      (q.status = .rejected ∨ q.status = .failed) := by
  have htext (missing : SettlementError) : requireText reason missing = .ok (Text.trimString reason) :=
    requireText_eq_ok.mpr ⟨named, rfl⟩
  cases hs : p.status with
  | requested =>
    have hact : p.act actor now (.reject reason) = .ok ({ p with
        rejectedBy := some actor
        rejectedAt := some now
        rejectionReason := some (Text.trimString reason) }.move .rejected now) := by
      simp only [act, Payout.reject, hs, htext]
      rfl
    exact ⟨_, hs ▸ hact, .inl rfl⟩
  | approved | processing =>
    have hact : p.act actor now (.fail reason) = .ok ({ p with
        processedBy := p.processedBy.or (some actor)
        failedAt := some now
        failureReason := some (Text.trimString reason)
        retryCount := p.retryCount + 1 }.move .failed now) := by
      simp only [act, Payout.fail, hs, htext]
      rfl
    exact ⟨_, hs ▸ hact, .inr rfl⟩
  | completed | rejected | failed =>
    rw [hs] at alive
    cases alive

namespace Engine

open Engine.Action

variable {e : Engine} {s : Nat} {id : PayoutId} {p q : Payout}

/-- The balance of the merchant takes the movement that comes with a move to the status. -/
def Takes (e : Engine) (moment : Moment) (p : Payout) (target : PayoutStatus) : Prop :=
  ∀ op, movement? p target = some op → ∃ balance, e.Moves moment p.merchantId op balance

theorem moveFor_of_moves {moment : Moment} {target : PayoutStatus} {op : LedgerOp} {balance : Balance}
    (hop : movement? p target = some op) (h : e.Moves moment p.merchantId op balance) :
    (moveFor moment p target).on e = (e.storeBalance p.merchantId balance, .ok ()) := by
  simp only [moveFor, hop, on_bind, h.on_moveMoney, on_pure]

theorem Takes.moveFor {moment : Moment} {target : PayoutStatus} (h : e.Takes moment p target) :
    ∃ paid, (moveFor moment p target).on e = (paid, .ok ()) := by
  cases hop : movement? p target with
  | none => exact ⟨e, by rw [Engine.moveFor, hop]; rfl⟩
  | some op =>
    obtain ⟨balance, hmoves⟩ := h op hop
    exact ⟨_, moveFor_of_moves hop hmoves⟩

section

variable {moment : Moment} {actor : ActorId} {action : PayoutAction} {source target : PayoutStatus}
  (taken : e.lockPayout moment.held.payouts id = .ok p)
  (acted : p.act actor moment.now action = .ok (q, .applied source target))
include taken acted

theorem perform_actOnPayout_of_paid {paid : Engine} (h : (moveFor moment q target).on e = (paid, .ok ())) :
    e.perform moment (.actOnPayout id actor action) = (paid.storePayout id q, .ok (.payout q)) := by
  simp only [perform, Operation.action, on_map, Engine.actOnPayout, on_bind, on_get, on_lift, taken, acted, h,
    on_modify, on_pure]
  rfl

/-- An action that the status of a payout allows is carried out just if the balance takes its movement. -/
theorem perform_actOnPayout_iff :
    (∃ answer, (e.perform moment (.actOnPayout id actor action)).2 = .ok answer) ↔ e.Takes moment q target := by
  constructor
  · rintro ⟨answer, hanswer⟩ op hop
    obtain ⟨_, balance, ho, hmoves, -⟩ | ⟨ho, -⟩ | ⟨fault, hfor⟩ := e.moveFor_cases moment q target
    · cases ho.symm.trans hop
      exact ⟨balance, hmoves⟩
    · cases ho.symm.trans hop
    · simp only [perform, Operation.action, on_map, Engine.actOnPayout, on_bind, on_get, on_lift, taken, acted,
        hfor] at hanswer
      cases hanswer
  · intro takes
    obtain ⟨paid, hfor⟩ := takes.moveFor
    exact ⟨_, congrArg Prod.snd (perform_actOnPayout_of_paid taken acted hfor)⟩

theorem payout?_perform_actOnPayout (takes : e.Takes moment q target) :
    (e.perform moment (.actOnPayout id actor action)).1.payout? id = some q := by
  obtain ⟨paid, hfor⟩ := takes.moveFor
  rw [perform_actOnPayout_of_paid taken acted hfor, payout?_storePayout, if_pos rfl]

end

theorem Booked.moves_of_open (hs : s ≤ 28) (he : e.Booked) (hgrid : e.OnGrid s) (now : Instant)
    (stored : e.payout? id = some p) (alive : p.status.isTerminal = false) (same : q.draft = p.draft)
    {target : PayoutStatus} {op : LedgerOp} (hop : movement? q target = some op) :
    ∃ balance, e.Moves ⟨now, {}⟩ q.merchantId op balance ∧
      balance.exact = (e.exactBalance q.merchantId).move op := by
  have hmerchant : q.merchantId = p.merchantId := Payout.merchantId_eq_of_draft same
  have hamount : op.amount = p.amount := (movement?_amount hop).trans (Payout.amount_eq_of_draft same)
  have hpositive : 0 < p.amount.toRat := he.payouts id p stored
  have hpending : p.amount.toRat ≤ (e.exactBalance p.merchantId).pending := by
    rw [he.balance_eq]
    exact he.amount_le_pending stored alive
  rw [hmerchant]
  cases hrow : e.balance? p.merchantId with
  | none =>
    rw [exactBalance, readBalance, hrow] at hpending
    exact absurd (lt_of_lt_of_le hpositive hpending) (lt_irrefl 0)
  | some row =>
    have hexact : row.exact = e.exactBalance p.merchantId := by rw [he.exact_eq hrow, he.balance_eq]
    rw [← hexact] at hpending ⊢
    have hcovers : row.exact.Covers (2 ^ 96 / 10 ^ s) op := by
      rw [← hamount] at hpending
      cases target with
      | requested | approved | processing => cases hop
      | completed | rejected | failed =>
        cases hop
        exact hpending
    have hbooked : row.exact = e.booked p.merchantId := he.exact_eq hrow
    have hwithin : row.exact.Within (2 ^ 96 / 10 ^ s) :=
      hbooked ▸ booked_within he.toPositive _ (he.available_nonneg _) hgrid.income_lt
    obtain ⟨balance, happly, hmoved⟩ := Balance.apply_of_within hs now
      (hbooked ▸ booked_onGrid he.toPositive hgrid.inRange _) (hamount ▸ hgrid.payouts id p stored)
      (positive_iff_toRat.mpr (hamount ▸ hpositive)) (hwithin.move (hamount ▸ hpositive.le) hcovers)
    exact ⟨balance, ⟨row, hrow, List.not_mem_nil, happly⟩, hmoved⟩

theorem Booked.takes (hs : s ≤ 28) (he : e.Booked) (hgrid : e.OnGrid s) (now : Instant) (stored : e.payout? id = some p)
    (alive : p.status.isTerminal = false) (same : q.draft = p.draft) (target : PayoutStatus) :
    e.Takes ⟨now, {}⟩ q target := by
  intro op hop
  obtain ⟨balance, hmoves, -⟩ := he.moves_of_open hs hgrid now stored alive same hop
  exact ⟨balance, hmoves⟩

theorem Booked.perform_giveUp (hs : s ≤ 28) (he : e.Booked) (hgrid : e.OnGrid s) (now : Instant)
    (stored : e.payout? id = some p) (alive : p.status.isTerminal = false) {reason : String}
    (named : Text.isBlankString reason = false) (actor : ActorId) :
    ∃ next q, e.perform ⟨now, {}⟩ (.actOnPayout id actor (p.status.giveUp reason)) = (next, .ok (.payout q)) ∧
      next.payout? id = some q ∧ (q.status = .rejected ∨ q.status = .failed) ∧
      (next.exactBalance p.merchantId).pending = (e.exactBalance p.merchantId).pending - p.amount.toRat := by
  obtain ⟨q, acted, hended⟩ := Payout.act_giveUp alive named actor now
  obtain ⟨-, hdraft, -⟩ := Payout.act_applied acted
  have hop : movement? q q.status = some (.release q.amount) := by rcases hended with h | h <;> rw [h] <;> rfl
  obtain ⟨balance, hmoves, hexact⟩ := he.moves_of_open hs hgrid now stored alive hdraft hop
  refine ⟨_, q, perform_actOnPayout_of_paid (lockPayout_alone stored) acted (moveFor_of_moves hop hmoves), ?_,
    hended, ?_⟩
  · rw [payout?_storePayout, if_pos rfl]
  · have hmerchant : p.merchantId = q.merchantId := (Payout.merchantId_eq_of_draft hdraft).symm
    show ((e.storeBalance q.merchantId balance).exactBalance p.merchantId).pending = _
    rw [exactBalance_storeBalance, if_pos hmerchant, hexact, hmerchant, ← Payout.amount_eq_of_draft hdraft]
    rfl

end Engine
end Settlement
