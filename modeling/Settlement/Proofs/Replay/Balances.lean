import Settlement.Arguments
import Settlement.Proofs.Balance.Printed
import Settlement.Proofs.Decimal.Printed
import Settlement.Proofs.Replay.Amounts

/-! Whether printed balances add up. What was received and not paid out is available or pending, up to two units for the
four columns that are rounded; and where a log asks for whole units only, nothing is rounded. -/
namespace Settlement

open Decimal

theorem Engine.Step.checked {e next : Engine} {moment : Moment} {op : Operation} (h : Step e moment op next)
    (he : ∀ merchant row, e.balance? merchant = some row → row.Checked) (merchant : MerchantId) (row : Balance)
    (hrow : next.balance? merchant = some row) : row.Checked := by
  obtain hold | ⟨now, rfl⟩ | ⟨before, op, now, -, happly⟩ := h.balance_origin hrow
  · exact he merchant row hold
  · exact Balance.checked_opened merchant now
  · exact Balance.checked_of_apply happly

namespace Replay

variable {r ended : Replay} {record : List String} {rows : List LogRow} {supply : Uuid.Supply} {s : Nat}
  {config : SettlementConfig} {merchant : MerchantId} {row : Balance}

/-- The numbers that a record of the statement says. -/
def figures? : List String → Option ExactBalance
  | [_, available, pending, totalReceived, totalPaidOut] => do
    let available ← Decimal.ofString? available
    let pending ← Decimal.ofString? pending
    let totalReceived ← Decimal.ofString? totalReceived
    let totalPaidOut ← Decimal.ofString? totalPaidOut
    return ⟨available.toRat, pending.toRat, totalReceived.toRat, totalPaidOut.toRat⟩
  | _ => none

theorem figures?_statementRow (r : Replay) (label : String) (b : Balance) :
    figures? (r.statementRow label b) = some (b.shown r.engine.config.settlementCurrency.scale.toNat) := by
  simp only [figures?, statementRow, statementAmount, Decimal.ofString?_toString]
  rfl

theorem mem_statementRows (h : record ∈ r.statementRows) :
    ∃ label merchant b, r.engine.balance? merchant = some b ∧ record = r.statementRow label b := by
  obtain ⟨⟨label, merchant⟩, -, hrow⟩ := List.mem_filterMap.mp h
  obtain ⟨b, hb, rfl⟩ := Option.map_eq_some_iff.mp hrow
  exact ⟨label, merchant, b, hb, rfl⟩

/-! ## At the end of a replay -/

section

variable {rate usdRate : Decimal} {tier : KycTier} {start : Instant} (fresh : FreshFor rows supply)
  (through : (opened config rate usdRate tier start supply).carryOut rows = some ended)
include fresh through

theorem FreshFor.ends : ended.engine.Standing config ∧
    ∀ merchant row, ended.engine.balance? merchant = some row → row.Checked := by
  refine fresh.preserves
    (P := fun e => e.Standing config ∧ ∀ merchant row, e.balance? merchant = some row → row.Checked)
    (fun hstep _ _ he => ⟨he.1.step hstep, hstep.checked he.2⟩) ⟨Engine.standing_opened config, fun _ _ => nofun⟩ through

theorem FreshFor.asked : Asked rows ended.engine := by
  have hnothing : Asked [] (opened config rate usdRate tier start supply).engine :=
    ⟨fun _ _ => nofun, fun _ _ => nofun, le_of_eq rfl⟩
  exact hnothing.carryOut (fresh.ready config rate usdRate tier start) (fun row hrow => ⟨row, hrow, rfl⟩) through

theorem FreshFor.inRange (hs : s ≤ 13) (hunit : config.settlementCurrency.scale.toNat ≤ s)
    (hgrid : ∀ row ∈ rows, row.OnGrid s) (hsmall : invoiced rows < 10 ^ 15) : ended.engine.InRange s := by
  refine (fresh.asked through).inRange (fresh.ends through).1 (by omega) hunit hgrid (lt_of_lt_of_le hsmall ?_)
  rw [le_div_iff₀ (by positivity)]
  calc (10 ^ 15 * 10 ^ s : ℚ) ≤ 10 ^ 15 * 10 ^ 13 := by gcongr; norm_num
    _ ≤ 2 ^ 96 := by norm_num

theorem FreshFor.gap_eq_zero (hs : s ≤ 13) (hrange : ended.engine.InRange s)
    (hrow : ended.engine.balance? merchant = some row) : row.exact.gap = 0 := by
  have hbooked := fresh.booked (by omega) config rate usdRate tier start through hrange
  rw [hbooked.exact_eq hrow]
  simp only [ExactBalance.gap, Engine.booked]
  ring

theorem FreshFor.exact_onGrid (hs : s ≤ 13) (hrange : ended.engine.InRange s)
    (hrow : ended.engine.balance? merchant = some row) : row.exact.OnGrid s := by
  have hbooked := fresh.booked (by omega) config rate usdRate tier start through hrange
  rw [hbooked.exact_eq hrow]
  exact Engine.booked_onGrid hbooked.toPositive hrange merchant

end

/-- Each record that is printed at the end of a log can be read as numbers. What is available and what is pending is not
negative, and what was received and not paid out differs from them by two units of the currency at most, but for what
sums of their size are rounded. Nothing is rounded but by printing if the currency has no more than thirteen places and
the log asks for moderate amounts; and if these are whole units, nothing is rounded at all. -/
theorem printed_balances_reconcile {config : SettlementConfig} {rate usdRate : Decimal} {tier : KycTier} {log : String}
    {start : Instant} {supply : Uuid.Supply} {ended : Replay} {report : List LogEntry} {record : List String}
    (fresh : FreshFor (rowsOf log) supply)
    (through : (opened config rate usdRate tier start supply).run log = some (ended, report))
    (printed : record ∈ ended.statementRows) :
    let places := config.settlementCurrency.scale.toNat
    ∃ x, figures? record = some x ∧ 0 ≤ x.available ∧ 0 ≤ x.pending ∧
      |x.gap| ≤ 2 / 10 ^ places + (x.available + x.pending + 1) / 10 ^ 27 ∧
      (places ≤ 13 → (∀ row ∈ rowsOf log, row.OnGrid 6) → invoiced (rowsOf log) < 10 ^ 15 →
        |x.gap| ≤ 2 / 10 ^ places ∧
        ((∀ row ∈ rowsOf log, row.OnGrid places) →
          x.totalReceived - x.totalPaidOut = x.available + x.pending)) := by
  intro places
  have hthrough : (opened config rate usdRate tier start supply).carryOut (rowsOf log) = some ended := by
    rw [← run_eq, through]
    rfl
  obtain ⟨label, merchant, b, hb, rfl⟩ := mem_statementRows printed
  obtain ⟨standing, hchecked⟩ := fresh.ends hthrough
  have hfigures := figures?_statementRow ended label b
  rw [standing.config_eq] at hfigures
  have hrow := hchecked merchant b hb
  obtain ⟨havailable, hpending⟩ := hrow.shown_nonneg places
  refine ⟨b.shown places, hfigures, havailable, hpending, hrow.abs_gap_shown_le places, ?_⟩
  intro hplaces hgrid hsmall
  have hrange : ended.engine.InRange (max 6 places) :=
    fresh.inRange hthrough (by omega) (Nat.le_max_right 6 places)
      (fun row hrow => (hgrid row hrow).mono (Nat.le_max_left 6 places)) hsmall
  have hgap : b.exact.gap = 0 := fresh.gap_eq_zero hthrough (by omega) hrange hb
  refine ⟨?_, fun hunits => ?_⟩
  · have hshown := b.abs_gap_shown_sub_le places
    rwa [hgap, sub_zero] at hshown
  · have hunit : ended.engine.InRange places := fresh.inRange hthrough hplaces le_rfl hunits hsmall
    rw [Balance.shown_of_onGrid (fresh.exact_onGrid hthrough hplaces hunit hb)]
    exact sub_eq_zero.mp hgap

def recordsOf (log : String) : Option (List (List String)) :=
  ((opened .default Arguments.defaultRate Arguments.defaultRate .verified .epoch (.seeded 1)).run log).map
    fun ended => ended.1.statementRows

theorem recordsOf_eq (log : String) : recordsOf log =
    ((opened .default Arguments.defaultRate Arguments.defaultRate .verified .epoch (.seeded 1)).carryOut
      (rowsOf log)).map statementRows := by
  rw [recordsOf, ← run_eq, Option.map_map]
  rfl

/-- An invoice of whole units is paid, and a part of it is requested. -/
def wholeUnits : String :=
  "type,merchant,reference,amount,depth,finalized,actor,detail\n" ++
  "invoice,cafe,ORD-1,300000,,,,\n" ++
  "observe,,ORD-1,12,20,true,T,0x1\n" ++
  "payout,cafe,WD-1,100000,,,ops,0071000123456\n"

theorem rowsOf_wholeUnits : rowsOf wholeUnits =
    [⟨"invoice", "cafe", "ORD-1", some (.ofNat 300000), none, none, "", ""⟩,
      ⟨"observe", "", "ORD-1", some (.ofNat 12), some 20, some true, "T", "0x1"⟩,
      ⟨"payout", "cafe", "WD-1", some (.ofNat 100000), none, none, "ops", "0071000123456"⟩] := by
  decide +kernel

/-- Its columns add up. -/
theorem whole_units_reconcile : ∃ x, recordsOf wholeUnits = some [["cafe", "197000", "100000", "297000", "0"]] ∧
    figures? ["cafe", "197000", "100000", "297000", "0"] = some x ∧
    x.totalReceived - x.totalPaidOut = x.available + x.pending := by
  have hrecords : recordsOf wholeUnits = some [["cafe", "197000", "100000", "297000", "0"]] := by
    rw [recordsOf_eq, rowsOf_wholeUnits]
    decide +kernel
  obtain ⟨⟨ended, report⟩, hrun, hrows⟩ := Option.map_eq_some_iff.mp hrecords
  have hfresh : FreshFor (rowsOf wholeUnits) (.seeded 1) := by
    refine .of_unlike ?_ ?_ <;> rw [rowsOf_wholeUnits] <;> decide +kernel
  have hgrid : ∀ row ∈ rowsOf wholeUnits, row.OnGrid 0 := fun row hrow => by
    refine LogRow.onGrid_of_scale_le ?_
    revert row
    rw [rowsOf_wholeUnits]
    decide +kernel
  have hsmall : invoiced (rowsOf wholeUnits) < 10 ^ 15 := by
    rw [rowsOf_wholeUnits]
    decide +kernel
  obtain ⟨x, hx, -, -, -, hexact⟩ := printed_balances_reconcile hfresh hrun
    (hrows.symm ▸ List.mem_singleton_self ["cafe", "197000", "100000", "297000", "0"])
  refine ⟨x, hrecords, hx, (hexact (by decide) (fun row hrow => ?_) hsmall).2 fun row hrow => ?_⟩
  · exact (hgrid row hrow).mono (Nat.zero_le 6)
  · exact (hgrid row hrow).mono (Nat.zero_le _)

/-- An invoice is paid, one payout is completed, and another one is requested, each with half a cent. -/
def halfCents : String :=
  "type,merchant,reference,amount,depth,finalized,actor,detail\n" ++
  "invoice,cafe,ORD-1,300000.075,,,,\n" ++
  "observe,,ORD-1,12.000003,20,true,T,0x1\n" ++
  "payout,cafe,WD-1,100000.005,,,ops,0071000123456\n" ++
  "approve,,WD-1,,,,fin,\n" ++
  "complete,,WD-1,,,,fin,FT-1\n" ++
  "payout,cafe,WD-2,100000.005,,,ops,0071000123456\n"

theorem rowsOf_halfCents : rowsOf halfCents =
    [⟨"invoice", "cafe", "ORD-1", some (.ofParts 300000075 3), none, none, "", ""⟩,
      ⟨"observe", "", "ORD-1", some (.ofParts 12000003 6), some 20, some true, "T", "0x1"⟩,
      ⟨"payout", "cafe", "WD-1", some (.ofParts 100000005 3), none, none, "ops", "0071000123456"⟩,
      ⟨"approve", "", "WD-1", none, none, none, "fin", ""⟩, ⟨"complete", "", "WD-1", none, none, none, "fin", "FT-1"⟩,
      ⟨"payout", "cafe", "WD-2", some (.ofParts 100000005 3), none, none, "ops", "0071000123456"⟩] := by
  decide +kernel

/-- What was received is rounded up, and the other three columns are rounded down, so two cents are missing. -/
theorem half_cents_do_not_reconcile :
    (∀ row ∈ rowsOf halfCents, ∀ amount ∈ row.amount, amount.scale ≤ 6) ∧
    ((rowsOf halfCents).map fun row => (row.amount.getD .zero).toRat).sum < 10 ^ 15 ∧
    recordsOf halfCents = some [["cafe", "97000.06", "100000.00", "297000.08", "100000.00"]] ∧
    ∃ x, figures? ["cafe", "97000.06", "100000.00", "297000.08", "100000.00"] = some x ∧
      x.totalReceived - x.totalPaidOut = x.available + x.pending + 2 / 10 ^ 2 ∧
      x.totalReceived - x.totalPaidOut ≠ x.available + x.pending := by
  rw [recordsOf_eq, rowsOf_halfCents]
  refine ⟨by decide +kernel, by decide +kernel, by decide +kernel, ?_⟩
  have havailable : Decimal.ofString? "97000.06" = some (.ofParts 9700006 2) := by decide +kernel
  have hround : Decimal.ofString? "100000.00" = some (.ofParts 10000000 2) := by decide +kernel
  have hreceived : Decimal.ofString? "297000.08" = some (.ofParts 29700008 2) := by decide +kernel
  simp only [figures?, havailable, hround, hreceived]
  refine ⟨_, rfl, ?_, ?_⟩ <;> norm_num [toRat, ofParts]

end Replay
end Settlement
