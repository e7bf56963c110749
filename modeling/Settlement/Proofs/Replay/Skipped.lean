import Settlement.Arguments
import Settlement.Proofs.Engine.Atomicity
import Settlement.Proofs.Replay.Statement

/-! Rows that are skipped. They leave no trace but the labels of merchants that they name: when they are deleted from a log,
the statement at its end has the same records, less those of merchants that no other row names. -/
namespace Settlement
namespace Replay

variable {π : Comparison} {r r' next : Replay} {row : LogRow} {op : Engine.Operation} {error : ReplayError}
  {header : List String} {records : List (List String)} {m : MerchantId}

/-! ## One row -/

theorem perform_of_skipped (skipped : (r.perform op).2 = .error error) (survives : error ≠ .failed .overflow) :
    (r.perform op).1 = r := by
  have hunchanged {e : SettlementError} (h : (r.engine.perform ⟨r.clock, {}⟩ op).2 = .error (.refused e)) :
      (r.engine.perform ⟨r.clock, {}⟩ op).1 = r.engine := op.action_atomic ⟨r.clock, {}⟩ r.engine (.refused e) trivial h
  unfold Replay.perform at skipped ⊢
  generalize r.engine.perform ⟨r.clock, {}⟩ op = step at skipped hunchanged ⊢
  obtain ⟨e, (fault | _) | answer⟩ := step
  · have he : e = r.engine := hunchanged rfl
    rw [he]
  · cases skipped
    exact absurd rfl survives
  · cases skipped

theorem finish_of_skipped (skipped : (finish (r.perform op)).2 = .error error) (survives : error ≠ .failed .overflow) :
    (finish (r.perform op)).1 = r := by
  refine perform_of_skipped ?_ survives
  unfold finish at skipped
  cases hresult : (r.perform op).2 with
  | ok answer =>
    rw [hresult] at skipped
    cases skipped
  | error other =>
    rw [hresult] at skipped
    have hsame : other = error := Except.error.inj skipped
    rw [hsame]

/-- Identifiers may have been drawn, and nothing else has happened. -/
def Drew (r next : Replay) : Prop := ∃ supply, next = { r with supply }

theorem Looks.drew (h : r.Looks next) {last : Replay} (drew : next.Drew last) : r.Looks last := by
  obtain ⟨supply, rfl⟩ := drew
  exact ⟨h.engine, h.clock, h.tier⟩

theorem drew_invoiceOf (skipped : (invoiceOf row r m).2 = .error error) (survives : error ≠ .failed .overflow) :
    r.Drew (invoiceOf row r m).1 := by
  unfold invoiceOf at skipped ⊢
  cases hamount : row.amount with
  | none => exact ⟨r.supply, rfl⟩
  | some amount =>
    rw [hamount] at skipped
    exact ⟨r.fresh.2.fresh.2.supply, finish_of_skipped skipped survives⟩

theorem drew_requestOf (skipped : (requestOf row r m).2 = .error error) (survives : error ≠ .failed .overflow) :
    r.Drew (requestOf row r m).1 := by
  unfold requestOf at skipped ⊢
  split
  · exact ⟨r.supply, rfl⟩
  case isFalse hlabel =>
    rw [if_neg hlabel] at skipped
    cases hamount : row.amount with
    | none => exact ⟨r.supply, rfl⟩
    | some amount =>
      rw [hamount] at skipped
      dsimp only at skipped ⊢
      have hperform {error : ReplayError} :
          (r.fresh.2.perform (.requestPayout ⟨r.fresh.1⟩ (payoutRequest row m amount))).2 = .error error →
            error ≠ .failed .overflow →
            (r.fresh.2.perform (.requestPayout ⟨r.fresh.1⟩ (payoutRequest row m amount))).1 = r.fresh.2 :=
        perform_of_skipped
      generalize r.fresh.2.perform _ = step at skipped hperform ⊢
      obtain ⟨next, other | answer⟩ := step
      · cases skipped
        exact ⟨r.fresh.2.supply, hperform rfl survives⟩
      · cases skipped

theorem observe_of_skipped (skipped : (r.observe row).2 = .error error) (survives : error ≠ .failed .overflow) :
    (r.observe row).1 = r := by
  unfold observe at skipped ⊢
  cases hamount : row.amount with
  | none => rfl
  | some amount =>
    rw [hamount] at skipped
    exact finish_of_skipped skipped survives

theorem act_of_skipped {action : PayoutAction} (skipped : (r.act row action).2 = .error error)
    (survives : error ≠ .failed .overflow) : (r.act row action).1 = r := by
  unfold act at skipped ⊢
  cases hid : r.payouts.get? row.reference with
  | none => rfl
  | some id =>
    rw [hid] at skipped
    exact finish_of_skipped skipped survives

theorem sweep_of_skipped (skipped : (r.sweep row).2 = .error error) : (r.sweep row).1 = r := by
  unfold sweep at skipped ⊢
  cases hclock : r.clock.plusSeconds? (row.amount.getD .zero).wholePart with
  | none => rfl
  | some clock =>
    rw [hclock] at skipped
    cases skipped

theorem looks_of_skipped (sound : r.engine.Sound r.tier r.labels) {quoted : PaymentReference → Prop} {n : Nat}
    (ready : r.Ready quoted (n + 1)) (skipped : (r.apply row).2 = .error error) (survives : error ≠ .failed .overflow) :
    r.Looks (r.apply row).1 := by
  have hsame {next : Replay} (h : next = r) : r.Looks next := by
    rw [h]
    exact .refl sound
  have hmerchant {f : Replay → MerchantId → Replay × Except ReplayError Effect}
      (hf : ∀ {r m}, (f r m).2 = .error error → r.Drew (f r m).1)
      (skipped : (r.withMerchant row.merchant f).2 = .error error) : r.Looks (r.withMerchant row.merchant f).1 := by
    unfold withMerchant at skipped ⊢
    split
    · exact hsame rfl
    case isFalse hlabel =>
      rw [if_neg hlabel] at skipped
      exact (looks_enrol sound ready row.merchant).drew (hf skipped)
  refine apply_cases row (P := fun f => (f r).2 = .error error → r.Looks (f r).1) ?_ ?_ ?_ ?_ ?_ ?_ skipped
  · exact fun _ => hmerchant fun h => drew_invoiceOf h survives
  · exact fun _ skipped => hsame (observe_of_skipped skipped survives)
  · exact fun _ => hmerchant fun h => drew_requestOf h survives
  · exact fun _ _ skipped => hsame (act_of_skipped skipped survives)
  · exact fun _ skipped => hsame (sweep_of_skipped skipped)
  · exact fun _ _ => hsame rfl

/-! ## All rows of a log -/

/-- The records that are not skipped. When a number is out of range the replay ends, and what follows is kept. -/
def kept (header : List String) (r : Replay) : List (List String) → List (List String)
  | [] => []
  | record :: rest =>
    match LogRow.ofRecord? header record with
    | none => kept header r rest
    | some row =>
      match r.apply row with
      | (next, .ok _) => record :: kept header next rest
      | (_, .error (.failed .overflow)) => record :: rest
      | (next, .error _) => kept header next rest

theorem kept_of_unreadable {record : List String} {rest : List (List String)}
    (unread : LogRow.ofRecord? header record = none) : kept header r (record :: rest) = kept header r rest := by
  rw [kept, unread]

theorem kept_cases {record : List String} (read : LogRow.ofRecord? header record = some row)
    (rest : List (List String)) :
    (∃ effect, (r.apply row).2 = .ok effect ∧
      kept header r (record :: rest) = record :: kept header (r.apply row).1 rest) ∨
    ((r.apply row).2 = .error (.failed .overflow) ∧ kept header r (record :: rest) = record :: rest) ∨
    ∃ error, (r.apply row).2 = .error error ∧ error ≠ .failed .overflow ∧
      kept header r (record :: rest) = kept header (r.apply row).1 rest := by
  rw [kept, read]
  dsimp only
  generalize r.apply row = step
  obtain ⟨next, (reason | label | error | _) | effect⟩ := step
  · exact .inr (.inr ⟨_, rfl, nofun, rfl⟩)
  · exact .inr (.inr ⟨_, rfl, nofun, rfl⟩)
  · exact .inr (.inr ⟨_, rfl, nofun, rfl⟩)
  · exact .inr (.inl ⟨rfl, rfl⟩)
  · exact .inl ⟨effect, rfl, rfl⟩

def purged (r : Replay) : List (List String) → List (List String)
  | [] => []
  | header :: records => header :: kept header r records

/-- Two replays at one time are compared in all that is seen of them. -/
def exactly (tier : KycTier) (quoted : PaymentReference → Prop) : Comparison where
  paired := Eq
  counted := Eq
  daily := True
  monthly := True
  quoted
  tier
  days := by
    rintro - t _ s _ rfl rfl
    rfl
  months := by
    rintro - t _ s _ rfl rfl
    rfl

theorem permits_exactly {tier : KycTier} {quoted : PaymentReference → Prop} (hquoted : quoted ⟨row.reference⟩)
    (config : SettlementConfig) (clock : Instant) : Permits (exactly tier quoted) config row clock clock where
  quoted := hquoted
  counted _ := rfl
  deadline _ := by
    cases config.paymentTtl?.bind clock.plusSeconds? with
    | none => exact .none
    | some d =>
      refine .some ?_
      rintro t _ rfl
      rfl
  sweep _ := by
    cases clock.plusSeconds? row.span with
    | none => exact .none
    | some t => exact .some rfl

/-- Two replays that agree end alike, also if one of them does without the records that the other one skips. -/
theorem Agrees.ends_kept {tier : KycTier} {quoted : PaymentReference → Prop} (h : r.Agrees (exactly tier quoted) r')
    (ready : r.Ready quoted (3 * (readable header records).length))
    (ready' : r'.Ready quoted (3 * (readable header records).length))
    (hquoted : ∀ row ∈ readable header records, quoted ⟨row.reference⟩) :
    Ends (exactly tier quoted) (r.carryOut (readable header records))
      (r'.carryOut (readable header (kept header r records))) := by
  induction records generalizing r r' with
  | nil => exact .both h
  | cons record rest ih =>
    cases hread : LogRow.ofRecord? header record with
    | none =>
      rw [readable, List.filterMap_cons_none hread] at ready ready' hquoted ⊢
      rw [kept_of_unreadable hread]
      exact ih h ready ready' hquoted
    | some row =>
      have hreadable (records : List (List String)) :
          readable header (record :: records) = row :: readable header records := List.filterMap_cons_some hread
      rw [hreadable] at ready ready' hquoted ⊢
      obtain ⟨hrow, hrest⟩ := List.forall_mem_cons.mp hquoted
      have hclock : r.clock = r'.clock := h.clocks
      have permits : Permits (exactly tier quoted) r.engine.config row r.clock r'.clock :=
        hclock ▸ permits_exactly hrow r.engine.config r.clock
      have hcases := (h.apply ready ready' permits).cases
      obtain ⟨effect, hok, hkept⟩ | ⟨hfull, hkept⟩ | ⟨error, hskipped, survives, hkept⟩ := kept_cases hread rest
      · rw [hkept, hreadable]
        obtain ⟨goes, goes', agrees⟩ | ⟨full, -⟩ | ⟨lax, -⟩ := hcases
        · rw [carryOut_of_ne_overflow goes, carryOut_of_ne_overflow goes']
          exact ih agrees (ready.apply hrow) (ready'.apply hrow) hrest
        · cases hok.symm.trans full
        · exact absurd ⟨trivial, trivial⟩ lax
      · rw [hkept, hreadable]
        obtain ⟨goes, -⟩ | ⟨full, full'⟩ | ⟨lax, -⟩ := hcases
        · exact absurd hfull goes
        · rw [carryOut_of_overflow full, carryOut_of_overflow full']
          exact .neither
        · exact absurd ⟨trivial, trivial⟩ lax
      · have goes : (r.apply row).2 ≠ .error (.failed .overflow) := by
          rw [hskipped]
          exact fun heq => survives (Except.error.inj heq)
        have agrees : (r.apply row).1.Agrees (exactly tier quoted) r' :=
          h.of_looks (looks_of_skipped h.sound ready hskipped survives) (.refl h.sound')
        rw [hkept, carryOut_of_ne_overflow goes]
        exact ih agrees (ready.apply hrow) (ready'.mono (Nat.le_add_right _ 3)) hrest

theorem kept_sublist (header : List String) (r : Replay) (records : List (List String)) :
    (kept header r records).Sublist records := by
  induction records generalizing r with
  | nil => exact .slnil
  | cons record rest ih =>
    cases hread : LogRow.ofRecord? header record with
    | none =>
      rw [kept_of_unreadable hread]
      exact (ih r).cons record
    | some row =>
      obtain ⟨_, -, hkept⟩ | ⟨-, hkept⟩ | ⟨_, -, -, hkept⟩ := kept_cases (r := r) hread rest <;> rw [hkept]
      · exact (ih _).cons_cons record
      · exact (ih _).cons record

/-! ## What is printed -/

/-- A row asks for the merchant with the label. -/
def asksFor (rows : List LogRow) (label : String) : Bool := rows.any fun row => row.label? = some label

theorem asksFor_iff {rows : List LogRow} {label : String} :
    asksFor rows label = true ↔ ∃ row ∈ rows, row.label? = some label := by
  simp [asksFor]

section

variable {config : SettlementConfig} {rate usdRate : Decimal} {tier : KycTier} {start : Instant}
  {supply supply' : Uuid.Supply} {log cleaned : String}

theorem mem_keys_run {rows : List LogRow}
    (h : (opened config rate usdRate tier start supply).carryOut rows = some next) (label : String) :
    label ∈ next.merchants.keys ↔ asksFor rows label = true := by
  rw [mem_keys_carryOut h, asksFor_iff]
  exact or_iff_right nofun

theorem ends_cleaned (fresh : FreshFor (rowsOf log) supply) (fresh' : FreshFor (rowsOf log) supply')
    (deleted : Csv.read cleaned = (opened config rate usdRate tier start supply).purged (Csv.read log)) :
    Ends (exactly tier (Names (rowsOf log))) ((opened config rate usdRate tier start supply).carryOut (rowsOf log))
      ((opened config rate usdRate tier start supply').carryOut (rowsOf cleaned)) := by
  have hagrees : Agrees (exactly tier (Names (rowsOf log))) (opened config rate usdRate tier start supply)
      (opened config rate usdRate tier start supply') :=
    agrees_opened config rate usdRate start start supply supply' rfl (fun _ => trivial) fun _ => trivial
  have hready := fresh.ready config rate usdRate tier start
  have hready' := fresh'.ready config rate usdRate tier start
  have hquoted : ∀ row ∈ rowsOf log, Names (rowsOf log) ⟨row.reference⟩ := fun row hrow => ⟨row, hrow, rfl⟩
  cases hlog : Csv.read log with
  | nil =>
    rw [hlog] at deleted
    rw [rowsOf_of_nil hlog] at hagrees ⊢
    rw [rowsOf_of_nil deleted]
    exact .both hagrees
  | cons header records =>
    rw [hlog] at deleted
    rw [rowsOf_of_cons hlog] at hagrees hready hready' hquoted ⊢
    rw [rowsOf_of_cons deleted]
    exact hagrees.ends_kept hready hready' hquoted

theorem asksFor_of_cleaned
    (deleted : Csv.read cleaned = (opened config rate usdRate tier start supply).purged (Csv.read log))
    {label : String} (h : asksFor (rowsOf cleaned) label = true) : asksFor (rowsOf log) label = true := by
  obtain ⟨row, hrow, hlabel⟩ := asksFor_iff.mp h
  refine asksFor_iff.mpr ⟨row, ?_, hlabel⟩
  cases hlog : Csv.read log with
  | nil =>
    rw [hlog] at deleted
    rw [rowsOf_of_nil deleted] at hrow
    cases hrow
  | cons header records =>
    rw [hlog] at deleted
    rw [rowsOf_of_cons deleted] at hrow
    rw [rowsOf_of_cons hlog]
    exact ((kept_sublist header _ records).filterMap _).subset hrow

/-- A merchant without a label in one of two replays that agree has nothing in the other one. -/
theorem Agrees.statementOf_eq_zero (h : r.Agrees π r') {label : String} (unlisted : label ∉ r'.merchants.keys) :
    r.statementOf label (r.engine.amounts r.labels label) = r.statementOf label .zero := by
  have hnone : r'.labels.merchant? label = none := by
    rw [← Option.not_isSome_iff_eq_none]
    exact mt Table.mem_keys_iff.mpr unlisted
  rw [← h.engines.amounts, Engine.amounts, hnone]
  rfl

/-- Two statements have the same records, but for merchants without money that only one of them lists. -/
structure Less (listed : String → Bool) (r r' : Replay) : Prop where
  rows : r'.statementRows = r.statementRows.filter fun row => row.head?.any listed
  others : ∀ row ∈ r.statementRows, row.head?.any listed = false → row.tail = List.replicate 4 (r.statementAmount .zero)

theorem Agrees.less (h : r.Agrees π r') {listed : String → Bool}
    (hkeys : ∀ label, label ∈ r'.merchants.keys ↔ label ∈ r.merchants.keys ∧ listed label = true) : Less listed r r' where
  rows := h.statementRows_eq_filter hkeys
  others := by
    intro row hrow hlisted
    rw [Replay.statementRows_eq h.engines.sound] at hrow
    obtain ⟨label, -, rfl⟩ := List.mem_map.mp hrow
    have hunlisted : listed label = false := hlisted
    have hlabel : label ∉ r'.merchants.keys := by
      rw [hkeys, hunlisted]
      exact fun hand => Bool.false_ne_true hand.2
    rw [h.statementOf_eq_zero hlabel]
    rfl

/-- When the rows that are skipped are deleted from a log, the statement at its end keeps all records of merchants whom
other rows ask for. The records that it loses show no money; it loses none, if all merchants are asked for by other
rows. And one replay gets through if the other one does. -/
theorem printed_without_skipped (fresh : FreshFor (rowsOf log) supply) (fresh' : FreshFor (rowsOf log) supply')
    (deleted : Csv.read cleaned = (opened config rate usdRate tier start supply).purged (Csv.read log)) :
    (printed config rate usdRate tier cleaned start supply').isSome =
      (printed config rate usdRate tier log start supply).isSome ∧
    (∀ full ∈ (opened config rate usdRate tier start supply).run log,
      ∀ rest ∈ (opened config rate usdRate tier start supply').run cleaned,
        Less (asksFor (rowsOf cleaned)) full.1 rest.1) ∧
    ((∀ row ∈ rowsOf log, row.label?.all (asksFor (rowsOf cleaned)) = true) →
      printed config rate usdRate tier cleaned start supply' = printed config rate usdRate tier log start supply) := by
  have hends := ends_cleaned fresh fresh' deleted
  have hrun := run_eq (opened config rate usdRate tier start supply) log
  have hrun' := run_eq (opened config rate usdRate tier start supply') cleaned
  rw [printed_eq, printed_eq]
  generalize hfull : (opened config rate usdRate tier start supply).carryOut (rowsOf log) = x at hends hrun
  generalize hrest : (opened config rate usdRate tier start supply').carryOut (rowsOf cleaned) = y at hends hrun'
  cases hends with
  | @both full rest agrees =>
    have hkeys (label : String) : label ∈ rest.merchants.keys ↔
        label ∈ full.merchants.keys ∧ asksFor (rowsOf cleaned) label = true := by
      rw [mem_keys_run hfull, mem_keys_run hrest]
      exact (and_iff_right_of_imp (asksFor_of_cleaned deleted)).symm
    refine ⟨rfl, fun ended hended ended' hended' => ?_, fun hall => ?_⟩
    · rw [Option.mem_def.mp hended] at hrun
      rw [Option.mem_def.mp hended'] at hrun'
      cases hrun
      cases hrun'
      exact agrees.less hkeys
    · have hsame (label : String) : label ∈ rest.merchants.keys ↔ label ∈ full.merchants.keys := by
        rw [hkeys, and_iff_left_iff_imp, mem_keys_run hfull, asksFor_iff]
        rintro ⟨row, hrow, hlabel⟩
        have hasks := hall row hrow
        rwa [hlabel] at hasks
      exact congrArg some (agrees.statement_eq hsame)
  | neither =>
    refine ⟨rfl, fun ended hended => ?_, fun _ => rfl⟩
    rw [Option.mem_def.mp hended] at hrun
    cases hrun
  | parted lax => exact absurd ⟨trivial, trivial⟩ lax

end

def columns : List String := ["type", "merchant", "reference", "amount", "depth", "finalized", "actor", "detail"]

/-- An invoice of two and a half million dong is paid. -/
def tidy : String :=
  "type,merchant,reference,amount,depth,finalized,actor,detail\n" ++
  "invoice,cafe,ORD-1,2500000,,,,\n" ++
  "observe,,ORD-1,100,20,true,T,0x1\n"

theorem read_tidy : Csv.read tidy =
    [columns, ["invoice", "cafe", "ORD-1", "2500000", "", "", "", ""],
      ["observe", "", "ORD-1", "100", "20", "true", "T", "0x1"]] := by
  decide +kernel

/-- The same, with an invoice without an amount, a row that is cut off, and the approval of a payout that nobody
asked for. -/
def untidy : String :=
  "type,merchant,reference,amount,depth,finalized,actor,detail\n" ++
  "invoice,cafe,,,,,,\n" ++
  "approve\n" ++
  "invoice,cafe,ORD-1,2500000,,,,\n" ++
  "approve,,P-1,,,,A,\n" ++
  "observe,,ORD-1,100,20,true,T,0x1\n"

theorem read_untidy : Csv.read untidy =
    [columns, ["invoice", "cafe", "", "", "", "", "", ""], ["approve"],
      ["invoice", "cafe", "ORD-1", "2500000", "", "", "", ""], ["approve", "", "P-1", "", "", "", "A", ""],
      ["observe", "", "ORD-1", "100", "20", "true", "T", "0x1"]] := by
  decide +kernel

def printedAtPar (log : String) (supply : Uuid.Supply) : Option String :=
  printed .default Arguments.defaultRate Arguments.defaultRate .verified log .epoch supply

/-- Both logs print the same. -/
theorem printed_tidy : printedAtPar tidy (.seeded 2) =
      some "merchant,available,pending,total_received,total_paid_out\ncafe,2475000,0,2475000,0\n" ∧
    printedAtPar tidy (.seeded 2) = printedAtPar untidy (.seeded 1) := by
  refine ⟨?_, (printed_without_skipped (.of_unlike ?_ ?_) (.of_unlike ?_ ?_) ?_).2.2 ?_⟩
  case refine_1 =>
    rw [printedAtPar, printed_eq, rowsOf_of_cons read_tidy]
    decide +kernel
  case refine_6 =>
    rw [read_tidy, read_untidy]
    decide +kernel
  case refine_7 =>
    rw [rowsOf_of_cons read_tidy, rowsOf_of_cons read_untidy]
    decide +kernel
  all_goals
    rw [rowsOf_of_cons read_untidy]
    decide +kernel

/-- A row that is skipped lists a merchant. -/
theorem skipped_row_lists_merchant :
    Csv.read "type,merchant,reference,amount\n" = (opened .default (.ofNat 25000) (.ofNat 25000) .verified .epoch
      (.seeded 1)).purged (Csv.read "type,merchant,reference,amount\ninvoice,ghost,,\n") ∧
    printedAtPar "type,merchant,reference,amount\ninvoice,ghost,,\n" (.seeded 1) =
      some "merchant,available,pending,total_received,total_paid_out\nghost,0,0,0,0\n" ∧
    printedAtPar "type,merchant,reference,amount\n" (.seeded 1) = some "" := by
  decide +kernel

end Replay
end Settlement
