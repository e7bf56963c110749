import Mathlib.Data.List.Sort
import Mathlib.Data.String.Basic
import Settlement.Proofs.Replay.Lockstep

/-! The statement of balances. It depends on the labels of merchants and on the sums that stand behind them only. -/
namespace Settlement
namespace Replay

variable {π : Comparison} {r r' : Replay} {tier : KycTier}

def statementOf (r : Replay) (label : String) (sums : Amounts) : List String :=
  [label, r.statementAmount sums.available, r.statementAmount sums.pending, r.statementAmount sums.totalReceived,
    r.statementAmount sums.totalPaidOut]

def sortLabels (labels : List String) : List String := labels.mergeSort fun a b => decide (a ≤ b)

theorem mem_sortLabels {labels : List String} {label : String} : label ∈ sortLabels labels ↔ label ∈ labels :=
  (labels.mergeSort_perm _).mem_iff

theorem statementRows_eq (h : r.engine.Sound tier r.labels) : r.statementRows =
    (sortLabels r.merchants.keys).map fun label => r.statementOf label (r.engine.amounts r.labels label) := by
  have hrow : ∀ entry ∈ r.merchants.entries.mergeSort fun a b => !decide (b.1 < a.1),
      (r.engine.ledger.balance? entry.2).map (r.statementRow entry.1) =
        some (r.statementOf entry.1 (r.engine.amounts r.labels entry.1)) := by
    intro entry hentry
    obtain ⟨label, m⟩ := entry
    have hm : r.labels.merchant? label = some m :=
      (Table.find?_eq_some_iff r.merchants.nodup).mpr (List.mem_mergeSort.mp hentry)
    obtain ⟨row, hbalance⟩ := h.account hm
    rw [show r.engine.ledger.balance? m = some row from hbalance, Engine.amounts, hm, Option.bind_some, hbalance]
    rfl
  have hsort : (r.merchants.entries.mergeSort fun a b => !decide (b.1 < a.1)).map Prod.fst =
      sortLabels r.merchants.keys := by
    refine List.map_mergeSort fun a _ b _ => ?_
    rw [← decide_not]
    exact decide_eq_decide.mpr not_lt
  rw [statementRows, List.filterMap_congr hrow, ← hsort, List.map_map]
  exact congrFun List.filterMap_eq_map _

theorem sortLabels_eq_filter {labels labels' : List String} (nodup : labels.Nodup) (nodup' : labels'.Nodup)
    {keep : String → Bool} (h : ∀ label, label ∈ labels' ↔ label ∈ labels ∧ keep label = true) :
    sortLabels labels' = (sortLabels labels).filter keep := by
  have hperm : (sortLabels labels').Perm ((sortLabels labels).filter keep) := by
    have hsort (l : List String) : (sortLabels l).Perm l := l.mergeSort_perm _
    refine (List.perm_ext_iff_of_nodup ((hsort labels').nodup_iff.mpr nodup')
      (((hsort labels).nodup_iff.mpr nodup).filter _)).mpr fun label => ?_
    rw [List.mem_filter, mem_sortLabels, mem_sortLabels, h]
  exact hperm.eq_of_pairwise (fun _ _ _ _ => le_antisymm) List.sortedLE_mergeSort.pairwise
    (List.sortedLE_mergeSort.pairwise.filter _)

theorem Agrees.statementOf_eq (h : r.Agrees π r') (label : String) :
    r'.statementOf label (r'.engine.amounts r'.labels label) = r.statementOf label (r.engine.amounts r.labels label) := by
  have hamount : r'.statementAmount = r.statementAmount := by
    unfold statementAmount
    rw [h.engines.config_eq]
  rw [statementOf, hamount, h.engines.amounts]
  rfl

theorem Agrees.statementRows_eq (h : r.Agrees π r') : r'.statementRows =
    (sortLabels r'.merchants.keys).map fun label => r.statementOf label (r.engine.amounts r.labels label) :=
  (Replay.statementRows_eq h.engines.sound').trans (List.map_congr_left fun label _ => h.statementOf_eq label)

/-- If one replay has some of the labels of the other one, its statement has the records of these. -/
theorem Agrees.statementRows_eq_filter (h : r.Agrees π r') {keep : String → Bool}
    (hkeys : ∀ label, label ∈ r'.merchants.keys ↔ label ∈ r.merchants.keys ∧ keep label = true) :
    r'.statementRows = r.statementRows.filter fun row => row.head?.any keep := by
  have hlabels : sortLabels r'.merchants.keys = (sortLabels r.merchants.keys).filter keep :=
    sortLabels_eq_filter r.merchants.nodup r'.merchants.nodup hkeys
  rw [h.statementRows_eq, Replay.statementRows_eq h.engines.sound, hlabels, List.filter_map]
  rfl

theorem Agrees.statement_eq (h : r.Agrees π r') (hkeys : ∀ label, label ∈ r'.merchants.keys ↔ label ∈ r.merchants.keys) :
    r'.statement = r.statement := by
  have hlabels : sortLabels r'.merchants.keys = (sortLabels r.merchants.keys).filter fun _ => true :=
    sortLabels_eq_filter r.merchants.nodup r'.merchants.nodup fun label => (hkeys label).trans (and_iff_left rfl).symm
  have hrows : r'.statementRows = r.statementRows := by
    rw [h.statementRows_eq, Replay.statementRows_eq h.engines.sound, hlabels, List.filter_true]
  rw [statement, statement, hrows]

/-- What is printed of a log. Nothing is, if the replay does not get through. -/
def printed (config : SettlementConfig) (rate usdRate : Decimal) (tier : KycTier) (log : String) (start : Instant)
    (supply : Uuid.Supply) : Option String :=
  ((opened config rate usdRate tier start supply).run log).map fun ended => ended.1.statement

theorem printed_eq (config : SettlementConfig) (rate usdRate : Decimal) (tier : KycTier) (log : String) (start : Instant)
    (supply : Uuid.Supply) : printed config rate usdRate tier log start supply =
      ((opened config rate usdRate tier start supply).carryOut (rowsOf log)).map statement := by
  rw [← run_eq, Option.map_map]
  rfl

end Replay
end Settlement
