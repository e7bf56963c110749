import Settlement.Proofs.Engine.Standing
import Settlement.Proofs.Table
import Settlement.Replay.Log

/-! What a row of a log does to a replay, whatever comes of it. It may register a merchant, draw identifiers, perform one
operation and move the clock. -/
namespace Settlement

def LogRow.operation (row : LogRow) : String := Text.lower row.kind

/-- The seconds by which a row asks to move the clock. -/
def LogRow.span (row : LogRow) : Int := (row.amount.getD .zero).wholePart

def LogRow.tick (row : LogRow) (clock : Instant) : Instant :=
  if row.operation = "sweep" then (clock.plusSeconds? row.span).getD clock else clock

/-- The merchant for whom a row asks. -/
def LogRow.label? (row : LogRow) : Option String :=
  if (row.operation = "invoice" ∨ row.operation = "payout") ∧ row.merchant.isEmpty = false then some row.merchant
  else none

namespace Replay

variable {r next : Replay} {row : LogRow} {header : List String}

/-! ## Merchants -/

def enrol (r : Replay) (label : String) : Replay × MerchantId :=
  match r.merchants.get? label with
  | some id => (r, id)
  | none =>
    let (id, r) := r.fresh
    let r := (r.perform (.registerMerchant ⟨id⟩ r.tier)).1
    ({ r with merchants := r.merchants.insert label ⟨id⟩ }, ⟨id⟩)

theorem enrol_of_new {label : String} (h : r.merchants.get? label = none) : r.enrol label =
    ({ r.fresh.2 with
      engine := r.engine.registerMerchant ⟨r.fresh.1⟩ r.tier r.clock
      merchants := r.merchants.insert label ⟨r.fresh.1⟩ }, ⟨r.fresh.1⟩) := by
  rw [enrol, h]
  rfl

theorem merchant_eq (r : Replay) (label : String) : r.merchant label =
    if label.isEmpty then .error (.malformed "merchant is required") else .ok (r.enrol label) := by
  unfold merchant enrol
  split
  · rfl
  · cases r.merchants.get? label <;> rfl

def withMerchant (r : Replay) (label : String) (f : Replay → MerchantId → Replay × Except ReplayError Effect) :
    Replay × Except ReplayError Effect :=
  if label.isEmpty then (r, .error (.malformed "merchant is required")) else f (r.enrol label).1 (r.enrol label).2

def newInvoice (row : LogRow) (merchantId : MerchantId) (amount : Decimal) : NewInvoice where
  merchantId
  amount
  reference := if row.reference.isEmpty then none else some ⟨row.reference⟩
  chain := "tron"
  destinationWallet := "replay-hot-wallet"
  payer := none

def invoiceOf (row : LogRow) (r : Replay) (merchantId : MerchantId) : Replay × Except ReplayError Effect :=
  match row.amount with
  | none => (r, .error noAmount)
  | some amount =>
    let (id, r) := r.fresh
    let (memo, r) := r.fresh
    finish (r.perform (.createInvoice ⟨⟨id⟩, .generate memo⟩ (newInvoice row merchantId amount)))

theorem invoice_eq (r : Replay) (row : LogRow) : r.invoice row = r.withMerchant row.merchant (invoiceOf row) := by
  unfold invoice withMerchant invoiceOf
  rw [merchant_eq]
  cases row.merchant.isEmpty <;> cases row.amount <;> rfl

def payoutRequest (row : LogRow) (merchantId : MerchantId) (amount : Decimal) : PayoutRequest :=
  ⟨merchantId, amount, ⟨"replay", row.detail, row.merchant, none⟩, ⟨row.actor⟩⟩

def requestOf (row : LogRow) (r : Replay) (merchantId : MerchantId) : Replay × Except ReplayError Effect :=
  if row.reference.isEmpty then (r, .error (.malformed "payout label is required"))
  else
    match row.amount with
    | none => (r, .error noAmount)
    | some amount =>
      let (id, r) := r.fresh
      match r.perform (.requestPayout ⟨id⟩ (payoutRequest row merchantId amount)) with
      | (r, .error e) => (r, .error e)
      | (r, .ok _) => ({ r with payouts := r.payouts.insert row.reference ⟨id⟩ }, .ok .applied)

theorem request_eq (r : Replay) (row : LogRow) : r.request row = r.withMerchant row.merchant (requestOf row) := by
  unfold request withMerchant requestOf
  rw [merchant_eq]
  cases row.merchant.isEmpty <;> rfl

def handler (row : LogRow) : String → Replay → Replay × Except ReplayError Effect
  | "invoice" => (·.withMerchant row.merchant (invoiceOf row))
  | "observe" => (·.observe row)
  | "payout" => (·.withMerchant row.merchant (requestOf row))
  | "approve" => (·.act row .approve)
  | "process" => (·.act row .startProcessing)
  | "complete" => (·.act row (.complete row.detail))
  | "reject" => (·.act row (.reject row.detail))
  | "fail" => (·.act row (.fail row.detail))
  | "sweep" => (·.sweep row)
  | _ => fun r => (r, .error (.malformed "unknown operation type"))

theorem apply_eq (r : Replay) (row : LogRow) : r.apply row = handler row row.operation r := by
  unfold apply LogRow.operation
  generalize Text.lower row.kind = operation
  unfold handler
  split
  case h_1 => exact r.invoice_eq row
  case h_3 => exact r.request_eq row
  case h_10 => simp [*]
  all_goals rfl

theorem apply_cases (row : LogRow) {P : (Replay → Replay × Except ReplayError Effect) → Prop}
    (hinvoice : row.operation = "invoice" → P (·.withMerchant row.merchant (invoiceOf row)))
    (hobserve : row.operation = "observe" → P (·.observe row))
    (hrequest : row.operation = "payout" → P (·.withMerchant row.merchant (requestOf row)))
    (hact : row.operation ∉ ["invoice", "payout", "sweep"] → ∀ action, P (·.act row action))
    (hsweep : row.operation = "sweep" → P (·.sweep row))
    (hunknown : row.operation ∉ ["invoice", "payout", "sweep"] →
      P fun r => (r, .error (.malformed "unknown operation type"))) :
    P (·.apply row) := by
  have happly : (·.apply row) = handler row row.operation := funext fun r => r.apply_eq row
  rw [happly]
  generalize row.operation = operation at *
  unfold handler
  split
  case h_1 => exact hinvoice rfl
  case h_2 => exact hobserve rfl
  case h_3 => exact hrequest rfl
  case h_9 => exact hsweep rfl
  case h_10 =>
    refine hunknown ?_
    simp only [List.mem_cons, List.not_mem_nil, or_false, not_or]
    exact ⟨‹_›, ‹_›, ‹_›⟩
  all_goals exact hact (by decide) _

/-! ## What a row leaves alone -/

/-- The settings, the tier, the clock and the merchants with labels are as before. -/
structure Keeps (r next : Replay) : Prop where
  config : next.engine.config = r.engine.config
  tier : next.tier = r.tier
  clock : next.clock = r.clock
  merchants : next.merchants = r.merchants

theorem Keeps.refl (r : Replay) : r.Keeps r := ⟨rfl, rfl, rfl, rfl⟩

theorem keeps_perform (r : Replay) (op : Engine.Operation) (single : op.Single) : r.Keeps (r.perform op).1 :=
  ⟨(r.engine.perform_step ⟨r.clock, {}⟩ op single).config_eq, rfl, rfl, rfl⟩

theorem keeps_invoiceOf (row : LogRow) (r : Replay) (m : MerchantId) : r.Keeps (invoiceOf row r m).1 := by
  unfold invoiceOf
  cases row.amount with
  | none => exact .refl r
  | some amount => exact { keeps_perform r.fresh.2.fresh.2 (.createInvoice ..) trivial with }

theorem keeps_requestOf (row : LogRow) (r : Replay) (m : MerchantId) : r.Keeps (requestOf row r m).1 := by
  unfold requestOf
  split
  · exact .refl r
  · cases row.amount with
    | none => exact .refl r
    | some amount =>
      have hkeeps := keeps_perform r.fresh.2 (.requestPayout ⟨r.fresh.1⟩ (payoutRequest row m amount)) trivial
      dsimp only
      generalize r.fresh.2.perform _ = step at hkeeps ⊢
      obtain ⟨next, error | answer⟩ := step <;> exact { hkeeps with }

theorem keeps_act (row : LogRow) (action : PayoutAction) (r : Replay) : r.Keeps (r.act row action).1 := by
  unfold act
  cases r.payouts.get? row.reference with
  | none => exact .refl r
  | some id => exact keeps_perform r _ trivial

theorem keeps_observe (row : LogRow) (r : Replay) : r.Keeps (r.observe row).1 := by
  unfold observe
  cases row.amount with
  | none => exact .refl r
  | some amount => exact keeps_perform r _ trivial

/-- A row keeps the settings and the tier, moves the clock as it asks, and adds its merchant to those that have labels. -/
structure Framed (row : LogRow) (r next : Replay) : Prop where
  config : next.engine.config = r.engine.config
  tier : next.tier = r.tier
  clock : next.clock = row.tick r.clock
  merchants : ∀ label, label ∈ next.merchants.keys ↔ label ∈ r.merchants.keys ∨ row.label? = some label

theorem mem_keys_enrol (r : Replay) (label other : String) :
    other ∈ (r.enrol label).1.merchants.keys ↔ other ∈ r.merchants.keys ∨ label = other := by
  unfold enrol
  cases h : r.merchants.get? label with
  | some id =>
    have hm : label ∈ r.merchants.keys := Table.mem_keys_iff.mpr (Option.isSome_of_eq_some h)
    refine ⟨.inl, ?_⟩
    rintro (ho | rfl)
    · exact ho
    · exact hm
  | none =>
    refine Table.mem_keys_put.trans ?_
    rw [or_comm, eq_comm]
    rfl

theorem framed_enrol (r : Replay) (label : String) : (r.enrol label).1.engine.config = r.engine.config ∧
    (r.enrol label).1.tier = r.tier ∧ (r.enrol label).1.clock = r.clock := by
  unfold enrol
  cases r.merchants.get? label <;> exact ⟨rfl, rfl, rfl⟩

theorem Framed.of_keeps (h : r.Keeps next) (asks : row.operation ∉ ["invoice", "payout", "sweep"]) :
    Framed row r next := by
  simp only [List.mem_cons, List.not_mem_nil, or_false, not_or] at asks
  refine ⟨h.config, h.tier, ?_, fun label => ?_⟩
  · rw [LogRow.tick, if_neg asks.2.2, h.clock]
  · rw [LogRow.label?, if_neg (fun hasks => hasks.1.elim asks.1 asks.2.1), h.merchants]
    simp

theorem framed_withMerchant {f : Replay → MerchantId → Replay × Except ReplayError Effect}
    (asks : row.operation = "invoice" ∨ row.operation = "payout") (hf : ∀ (r : Replay) m, r.Keeps (f r m).1)
    (r : Replay) : Framed row r (r.withMerchant row.merchant f).1 := by
  have htick : row.tick r.clock = r.clock := if_neg (by rcases asks with h | h <;> rw [h] <;> decide)
  by_cases hempty : row.merchant.isEmpty = true
  · rw [withMerchant, if_pos hempty]
    refine ⟨rfl, rfl, htick.symm, fun label => ?_⟩
    rw [LogRow.label?, if_neg (by simp [hempty])]
    simp
  · rw [withMerchant, if_neg hempty]
    obtain ⟨hconfig, htier, hclock⟩ := r.framed_enrol row.merchant
    have hkeeps := hf (r.enrol row.merchant).1 (r.enrol row.merchant).2
    refine ⟨hkeeps.config.trans hconfig, hkeeps.tier.trans htier, (hkeeps.clock.trans hclock).trans htick.symm,
      fun label => ?_⟩
    rw [LogRow.label?, if_pos ⟨asks, Bool.eq_false_iff.mpr hempty⟩, Option.some.injEq, ← mem_keys_enrol]
    exact iff_of_eq (congrArg (label ∈ ·.keys) hkeeps.merchants)

theorem framed_sweep (asks : row.operation = "sweep") (r : Replay) : Framed row r (r.sweep row).1 := by
  have hlabel : row.label? = none := by
    rw [LogRow.label?, asks]
    exact if_neg fun h => absurd h.1 (by decide)
  have hmerchants (label : String) : label ∈ r.merchants.keys ↔ label ∈ r.merchants.keys ∨ row.label? = some label := by
    simp [hlabel]
  have htick : row.tick r.clock = (r.clock.plusSeconds? (row.amount.getD .zero).wholePart).getD r.clock := if_pos asks
  unfold sweep
  cases hclock : r.clock.plusSeconds? (row.amount.getD .zero).wholePart with
  | none => exact ⟨rfl, rfl, by rw [htick, hclock]; rfl, hmerchants⟩
  | some clock => exact ⟨rfl, rfl, by rw [htick, hclock]; rfl, hmerchants⟩

theorem framed_apply (row : LogRow) (r : Replay) : Framed row r (r.apply row).1 := by
  refine apply_cases row (P := fun f => ∀ r, Framed row r (f r).1) ?_ ?_ ?_ ?_ ?_ ?_ r
  · exact fun asks => framed_withMerchant (.inl asks) (keeps_invoiceOf row)
  · exact fun asks r => .of_keeps (keeps_observe row r) (by rw [asks]; decide)
  · exact fun asks => framed_withMerchant (.inr asks) (keeps_requestOf row)
  · exact fun asks action r => .of_keeps (keeps_act row action r) asks
  · exact framed_sweep
  · exact fun asks r => .of_keeps (.refl r) asks

/-! ## All rows of a log -/

def readable (header : List String) (records : List (List String)) : List LogRow :=
  records.filterMap (LogRow.ofRecord? header)

/-- Carries out rows, and skips those that are refused. A number out of range ends the replay. -/
def carryOut (r : Replay) : List LogRow → Option Replay
  | [] => some r
  | row :: rest =>
    match r.apply row with
    | (_, .error (.failed .overflow)) => none
    | (next, _) => next.carryOut rest

theorem carryOut_of_overflow {rest : List LogRow} (h : (r.apply row).2 = .error (.failed .overflow)) :
    r.carryOut (row :: rest) = none := by
  rw [carryOut]
  generalize r.apply row = step at h
  obtain ⟨next, result⟩ := step
  cases h
  rfl

theorem carryOut_of_ne_overflow {rest : List LogRow} (h : (r.apply row).2 ≠ .error (.failed .overflow)) :
    r.carryOut (row :: rest) = (r.apply row).1.carryOut rest := by
  rw [carryOut]
  generalize r.apply row = step at h
  obtain ⟨next, (reason | label | error | _) | effect⟩ := step
  case error.failed.overflow => exact absurd rfl h
  all_goals rfl

theorem runRecords_eq (r : Replay) (number : Nat) (records : List (List String)) :
    (r.runRecords header number records).map Prod.fst = r.carryOut (readable header records) := by
  induction records generalizing r number with
  | nil => rfl
  | cons record rest ih =>
    have hrest (next : Replay) (entries : List LogEntry) :
        ((next.runRecords header (number + 1) rest).map fun result => (result.1, entries ++ result.2)).map Prod.fst =
          next.carryOut (readable header rest) := by
      rw [Option.map_map]
      exact ih next (number + 1)
    rw [runRecords, readable, List.filterMap_cons]
    cases hrow : LogRow.ofRecord? header record with
    | none => exact hrest r _
    | some row =>
      dsimp only
      rw [carryOut]
      generalize r.apply row = step
      obtain ⟨next, (reason | label | error | _) | effect⟩ := step
      case error.failed.overflow => rfl
      case ok => cases effect <;> exact hrest next _
      all_goals exact hrest next _

theorem mem_keys_carryOut {rows : List LogRow} (h : r.carryOut rows = some next) (label : String) :
    label ∈ next.merchants.keys ↔ label ∈ r.merchants.keys ∨ ∃ row ∈ rows, row.label? = some label := by
  induction rows generalizing r with
  | nil =>
    cases h
    simp
  | cons row rest ih =>
    have hnext : (r.apply row).1.carryOut rest = some next := by
      by_cases hfull : (r.apply row).2 = .error (.failed .overflow)
      · cases (carryOut_of_overflow hfull).symm.trans h
      · exact (carryOut_of_ne_overflow hfull).symm.trans h
    rw [ih hnext, (framed_apply row r).merchants, List.exists_mem_cons_iff, or_assoc]

def rowsOf (log : String) : List LogRow :=
  match Csv.read log with
  | [] => []
  | header :: records => readable header records

theorem rowsOf_of_nil {log : String} (h : Csv.read log = []) : rowsOf log = [] := by rw [rowsOf, h]

theorem rowsOf_of_cons {log : String} {records : List (List String)} (h : Csv.read log = header :: records) :
    rowsOf log = readable header records := by rw [rowsOf, h]

theorem run_eq (r : Replay) (log : String) : (r.run log).map Prod.fst = r.carryOut (rowsOf log) := by
  unfold run rowsOf
  cases Csv.read log with
  | nil => rfl
  | cons header records => exact r.runRecords_eq 1 records

end Replay
end Settlement
