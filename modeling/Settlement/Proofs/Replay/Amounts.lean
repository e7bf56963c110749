import Mathlib.Algebra.Order.BigOperators.Group.List
import Settlement.Proofs.Fee
import Settlement.Proofs.Replay.Steps

/-! Where the amounts on record come from. Rows have asked for each of them, and all payments together bring no more than
the rows ask, so the amounts of a log bound what a replay of it computes with. -/
namespace Settlement

open Decimal

/-- What a row asks to be paid by an invoice, if that is more than nothing. -/
def LogRow.invoiced (row : LogRow) : ℚ :=
  if row.operation = "invoice" then max 0 (row.amount.getD .zero).toRat else 0

/-- An amount for which the row asks by an invoice or a payout is a multiple of `10 ^ -s`. -/
def LogRow.OnGrid (s : Nat) (row : LogRow) : Prop :=
  row.operation = "invoice" ∨ row.operation = "payout" → ∀ amount ∈ row.amount, MultipleOf s amount.toRat

theorem LogRow.onGrid_of_scale_le {s : Nat} {row : LogRow} (h : ∀ amount ∈ row.amount, amount.scale ≤ s) :
    row.OnGrid s :=
  fun _ amount hamount => amount.multipleOf_toRat (h amount hamount)

theorem LogRow.OnGrid.mono {s t : Nat} {row : LogRow} (h : row.OnGrid s) (hst : s ≤ t) : row.OnGrid t :=
  fun asks amount hamount => (h asks amount hamount).mono hst

theorem LogRow.invoiced_nonneg (row : LogRow) : 0 ≤ row.invoiced := by
  unfold invoiced
  split
  · exact le_max_left _ _
  · exact le_rfl

theorem LogRow.le_invoiced {row : LogRow} {amount : Decimal} (asks : row.operation = "invoice")
    (hamount : row.amount = some amount) : amount.toRat ≤ row.invoiced := by
  rw [invoiced, if_pos asks, hamount]
  exact le_max_right _ _

namespace Replay

def invoiced (rows : List LogRow) : ℚ := (rows.map LogRow.invoiced).sum

theorem invoiced_concat (rows : List LogRow) (row : LogRow) :
    invoiced (rows ++ [row]) = invoiced rows + row.invoiced := by
  rw [invoiced, List.map_append, List.sum_append, List.map_singleton, List.sum_singleton]
  rfl

theorem le_invoiced_of_mem {rows : List LogRow} {row : LogRow} (h : row ∈ rows) : row.invoiced ≤ invoiced rows := by
  refine List.single_le_sum (fun q hq => ?_) _ (List.mem_map_of_mem h)
  obtain ⟨other, -, rfl⟩ := List.mem_map.mp hq
  exact other.invoiced_nonneg

/-- The amounts of all payments and payouts are those of rows that asked for them, and all payments together bring no
more than the rows ask. -/
structure Asked (rows : List LogRow) (e : Engine) : Prop where
  payments : ∀ id p, e.payment? id = some p →
    ∃ row ∈ rows, row.operation = "invoice" ∧ row.amount = some p.invoiceAmount
  payouts : ∀ id p, e.payout? id = some p → ∃ row ∈ rows, row.operation = "payout" ∧ row.amount = some p.amount
  income_le : e.income ≤ invoiced rows

variable {e next : Engine} {done rows : List LogRow} {row : LogRow} {config : SettlementConfig} {r ended : Replay}
  {quoted : PaymentReference → Prop} {s : Nat}

/-! ## Steps -/

theorem Asked.step (h : Asked done e) (hstep : StepOf row e next) : Asked (done ++ [row]) next := by
  obtain ⟨moment, op, hop, asked, fresh⟩ := hstep
  have hrow : row ∈ done ++ [row] := List.mem_append_right _ (List.mem_singleton_self row)
  refine ⟨fun id q hq => ?_, fun id q hq => ?_, ?_⟩
  · obtain ⟨p, hp, hdraft⟩ | ⟨_, _, hd, -, -, rfl⟩ := hop.payment_origin hq
    · obtain ⟨earlier, hearlier, asks, hamount⟩ := h.payments id p hp
      have hsame : q.draft.invoiceAmount = p.draft.invoiceAmount := congrArg Payment.invoiceAmount hdraft
      exact ⟨earlier, List.mem_append_left _ hearlier, asks, hamount.trans (congrArg some hsame.symm)⟩
    · exact ⟨row, hrow, asked.1, asked.2.trans (congrArg some (Engine.drafted_of_ok hd).amount_eq.symm)⟩
  · have hbefore {p : Payout} (hp : e.payout? id = some p) (hsame : q.amount = p.amount) :
        ∃ row' ∈ done ++ [row], row'.operation = "payout" ∧ row'.amount = some q.amount := by
      obtain ⟨earlier, hearlier, asks, hamount⟩ := h.payouts id p hp
      exact ⟨earlier, List.mem_append_left _ hearlier, asks, hamount.trans (congrArg some hsame.symm)⟩
    obtain hsame | ⟨p, _, _, _, _, hp, acted⟩ | ⟨p, _, hp, -, rfl⟩ | ⟨_, _, _, -, rfl, rfl | ⟨_, _, rfl⟩⟩ :=
      hop.payout_source hq
    · exact hbefore hsame rfl
    · exact hbefore hp (Payout.amount_eq_of_draft (Payout.act_applied acted).2.1)
    · exact hbefore hp rfl
    · exact ⟨row, hrow, asked.1, asked.2⟩
    · exact asked.elim
  · rw [invoiced_concat]
    obtain hsame | ⟨_, _, p, rfl, hd, hmore⟩ := hop.income_eq fresh
    · rw [hsame]
      exact le_add_of_le_of_nonneg h.income_le row.invoiced_nonneg
    · rw [hmore]
      refine add_le_add h.income_le ?_
      have hdrafted := Engine.drafted_of_ok hd
      have hamount : row.amount = some p.invoiceAmount := asked.2.trans (congrArg some hdrafted.amount_eq.symm)
      have hasked : p.invoiceAmount.toRat ≤ row.invoiced := LogRow.le_invoiced asked.1 hamount
      unfold Table.share
      split
      case isTrue hnet => exact le_trans (Exchange.net_le_of_computeFee hdrafted.split hnet) hasked
      case isFalse => exact row.invoiced_nonneg

theorem Asked.register {moment : Moment} {merchant : MerchantId} {tier : KycTier} (h : Asked rows e)
    (hstep : Engine.Step e moment (.registerMerchant merchant tier) next) : Asked rows next := by
  cases hstep with
  | idle => exact h
  | register => exact ⟨h.payments, h.payouts, h.income_le⟩
  | lapse read => exact read.elim

theorem Asked.apply (h : Asked done r.engine) (ready : r.Ready quoted 3) (row : LogRow) :
    Asked (done ++ [row]) (r.apply row).1.engine := by
  obtain ⟨midway, ⟨_, merchant, tier, hregister⟩, hstep⟩ := ready.apply_steps row
  exact (h.register hregister).step hstep

/-! ## Runs -/

theorem Asked.carryOut (h : Asked done r.engine) (ready : r.Ready quoted (3 * rows.length))
    (hquoted : ∀ row ∈ rows, quoted ⟨row.reference⟩) (through : r.carryOut rows = some ended) :
    Asked (done ++ rows) ended.engine := by
  induction rows generalizing r done with
  | nil =>
    cases through
    rwa [List.append_nil]
  | cons row rest ih =>
    obtain ⟨hfirst, hrest⟩ := List.forall_mem_cons.mp hquoted
    have hready : r.Ready quoted (3 * rest.length + 3) := ready
    have hdone := ih (h.apply (hready.mono (Nat.le_add_left 3 _)) row) (hready.apply hfirst) hrest
      (carryOut_cons_eq_some through).2
    rwa [List.append_assoc, List.singleton_append] at hdone

theorem Asked.inRange (h : Asked rows e) (standing : e.Standing config) (hs : s ≤ 28)
    (hunit : config.settlementCurrency.scale.toNat ≤ s) (hgrid : ∀ row ∈ rows, row.OnGrid s)
    (hsmall : invoiced rows < 2 ^ 96 / 10 ^ s) : e.InRange s where
  payments id p hp hnet := by
    obtain ⟨row, hrow, asks, hamount⟩ := h.payments id p hp
    refine Exchange.net_multipleOf_of_computeFee (standing.split id p hp) hnet hs hunit
      (hgrid row hrow (.inl asks) _ hamount) ?_
    exact lt_of_le_of_lt ((LogRow.le_invoiced asks hamount).trans (le_invoiced_of_mem hrow)) hsmall
  payouts id p hp := by
    obtain ⟨row, hrow, asks, hamount⟩ := h.payouts id p hp
    exact hgrid row hrow (.inr asks) _ hamount
  income_lt := lt_of_le_of_lt h.income_le hsmall

end Replay
end Settlement
