import Settlement.Proofs.Engine.Books
import Settlement.Proofs.Replay.Draws

/-! A row takes single steps of the engine, each with fresh identifiers. What such steps preserve holds in the end. -/
namespace Settlement

/-- What the row asks for: an invoice or a payout of its amount, or an operation that brings no amount of its own. -/
def Engine.Operation.AskedBy (row : LogRow) : Engine.Operation → Prop
  | .createInvoice _ invoice => row.operation = "invoice" ∧ row.amount = some invoice.amount
  | .requestPayout _ request => row.operation = "payout" ∧ row.amount = some request.amount
  | .handleEvent _ | .actOnPayout .. | .sweepExpired => True
  | _ => False

theorem Engine.Operation.AskedBy.indirect {row : LogRow} {op : Operation} (h : op.AskedBy row) : op.Indirect := by
  cases op with
  | moveMoney => exact h
  | _ => trivial

namespace Replay

open Engine

variable {r next ended : Replay} {row : LogRow} {rows rest : List LogRow} {quoted : PaymentReference → Prop} {n : Nat}

theorem carryOut_cons_eq_some (h : r.carryOut (row :: rest) = some ended) :
    (r.apply row).2 ≠ .error (.failed .overflow) ∧ (r.apply row).1.carryOut rest = some ended := by
  by_cases hfull : (r.apply row).2 = .error (.failed .overflow)
  · cases (carryOut_of_overflow hfull).symm.trans h
  · exact ⟨hfull, (carryOut_of_ne_overflow hfull).symm.trans h⟩

theorem carryOut_append_eq_some {done : List LogRow} (h : r.carryOut (done ++ rest) = some ended) :
    ∃ midway, r.carryOut done = some midway ∧ midway.carryOut rest = some ended := by
  induction done generalizing r with
  | nil => exact ⟨r, rfl, h⟩
  | cons row done ih =>
    obtain ⟨hrow, hrest⟩ := carryOut_cons_eq_some h
    rw [carryOut_of_ne_overflow hrow]
    exact ih hrest

/-- A step of the engine that the row asks for, with identifiers that are not in use. -/
def StepOf (row : LogRow) (e next : Engine) : Prop :=
  ∃ moment op, Engine.Step e moment op next ∧ op.AskedBy row ∧ op.Fresh e

theorem StepOf.idle (row : LogRow) (e : Engine) : StepOf row e e :=
  ⟨⟨.epoch, {}⟩, .sweepExpired, .idle _, trivial, trivial⟩

/-- All that a row does to the engine. It may register its merchant, and then takes a step that it asks for. -/
def StepsOf (row : LogRow) (e next : Engine) : Prop :=
  ∃ midway, (∃ moment merchant tier, Engine.Step e moment (.registerMerchant merchant tier) midway) ∧
    StepOf row midway next

theorem StepsOf.of_step {e next : Engine} (h : StepOf row e next) : StepsOf row e next :=
  ⟨e, ⟨⟨.epoch, {}⟩, ⟨0⟩, .basic, .idle _⟩, h⟩

namespace Ready

/-- What each row preserves holds when the rows have been carried out, and as many identifiers are left as the rows
behind them may draw. -/
theorem carryOut {P : Replay → Prop} (hrow : ∀ {r : Replay} (row : LogRow), r.Ready quoted 3 → P r → P (r.apply row).1)
    (ready : r.Ready quoted (3 * rows.length + n)) (hquoted : ∀ row ∈ rows, quoted ⟨row.reference⟩)
    (through : r.carryOut rows = some ended) (h : P r) : ended.Ready quoted n ∧ P ended := by
  induction rows generalizing r with
  | nil =>
    cases through
    exact ⟨ready.mono (Nat.le_add_left n _), h⟩
  | cons row rest ih =>
    obtain ⟨hfirst, hrest⟩ := List.forall_mem_cons.mp hquoted
    have hready : r.Ready quoted (3 * rest.length + n + 3) := by
      rwa [List.length_cons, Nat.mul_succ, Nat.add_right_comm] at ready
    exact ih (hready.apply hfirst) hrest (carryOut_cons_eq_some through).2
      (hrow row (hready.mono (Nat.le_add_left 3 _)) h)

theorem enrol_step (r : Replay) (label : String) :
    ∃ moment merchant tier, Engine.Step r.engine moment (.registerMerchant merchant tier) (r.enrol label).1.engine := by
  unfold Replay.enrol
  cases r.merchants.get? label with
  | some id => exact ⟨⟨r.clock, {}⟩, id, r.tier, .idle _⟩
  | none => exact ⟨⟨r.clock, {}⟩, ⟨r.fresh.1⟩, r.tier, .register ..⟩

theorem step_perform {op : Operation} (single : op.Single) (asked : op.AskedBy row) (fresh : op.Fresh r.engine) :
    StepOf row r.engine (r.perform op).1.engine :=
  ⟨_, op, r.engine.perform_step ⟨r.clock, {}⟩ op single, asked, fresh⟩

theorem step_invoiceOf (ready : r.Ready quoted 1) (asks : row.operation = "invoice") (m : MerchantId) :
    StepOf row r.engine (Replay.invoiceOf row r m).1.engine := by
  unfold Replay.invoiceOf
  cases hamount : row.amount with
  | none => exact .idle row r.engine
  | some amount =>
    exact step_perform (r := r.fresh.2.fresh.2) trivial ⟨asks, hamount⟩ ready.unused_fresh.payment

theorem step_requestOf (ready : r.Ready quoted 1) (asks : row.operation = "payout") (m : MerchantId) :
    StepOf row r.engine (Replay.requestOf row r m).1.engine := by
  unfold Replay.requestOf
  split
  · exact .idle row r.engine
  · cases hamount : row.amount with
    | none => exact .idle row r.engine
    | some amount =>
      have hrequested : StepOf row r.engine
          (r.fresh.2.perform (.requestPayout ⟨r.fresh.1⟩ (payoutRequest row m amount))).1.engine :=
        step_perform (r := r.fresh.2) trivial ⟨asks, hamount⟩ ready.unused_fresh.payout
      dsimp only
      generalize r.fresh.2.perform _ = step at hrequested ⊢
      obtain ⟨next, error | answer⟩ := step <;> exact hrequested

theorem steps_withMerchant {f : Replay → MerchantId → Replay × Except ReplayError Effect} (ready : r.Ready quoted 2)
    (hf : ∀ {r : Replay} m, r.Ready quoted 1 → StepOf row r.engine (f r m).1.engine) (label : String) :
    StepsOf row r.engine (r.withMerchant label f).1.engine := by
  unfold Replay.withMerchant
  split
  · exact .of_step (.idle row r.engine)
  · exact ⟨_, enrol_step r label, hf _ (ready.enrol label)⟩

theorem apply_steps (ready : r.Ready quoted 3) (row : LogRow) : StepsOf row r.engine (r.apply row).1.engine := by
  have hready : r.Ready quoted 2 := ready.mono (Nat.le_succ 2)
  refine apply_cases row (P := fun f => StepsOf row r.engine (f r).1.engine) ?_ ?_ ?_ ?_ ?_ ?_
  · exact fun asks => steps_withMerchant hready (fun m hr => step_invoiceOf hr asks m) _
  · intro _
    show StepsOf row r.engine (r.observe row).1.engine
    unfold observe
    cases row.amount with
    | none => exact .of_step (.idle row r.engine)
    | some amount => exact .of_step (step_perform trivial trivial trivial)
  · exact fun asks => steps_withMerchant hready (fun m hr => step_requestOf hr asks m) _
  · intro _ action
    show StepsOf row r.engine (r.act row action).1.engine
    unfold act
    cases r.payouts.get? row.reference with
    | none => exact .of_step (.idle row r.engine)
    | some id => exact .of_step (step_perform trivial trivial trivial)
  · intro _
    show StepsOf row r.engine (r.sweep row).1.engine
    unfold sweep
    cases r.clock.plusSeconds? (row.amount.getD .zero).wholePart with
    | none => exact .of_step (.idle row r.engine)
    | some clock =>
      have hswept : Engine.Step r.engine ⟨clock, {}⟩ .sweepExpired (r.engine.sweepExpired ⟨clock, {}⟩).1 := .sweep
      exact .of_step ⟨_, _, hswept, trivial, trivial⟩
  · exact fun _ => .of_step (.idle row r.engine)

end Ready

section

variable {P : Engine → Prop} (hstep : ∀ {e next : Engine} {moment : Moment} {op : Operation},
  Engine.Step e moment op next → op.Indirect → op.Fresh e → P e → P next)
include hstep

theorem Ready.apply_preserves (ready : r.Ready quoted 3) (h : P r.engine) (row : LogRow) :
    P (r.apply row).1.engine := by
  obtain ⟨midway, ⟨_, merchant, tier, hregister⟩, _, op, hop, asked, fresh⟩ := ready.apply_steps row
  exact hstep hop asked.indirect fresh (hstep hregister trivial trivial h)

theorem opened_preserves {config : SettlementConfig} (h : P (Engine.opened config)) (rate usdRate : Decimal)
    (tier : KycTier) (clock : Instant) (supply : Uuid.Supply) :
    P (opened config rate usdRate tier clock supply).engine := by
  have hset (e : Engine) (pair : Exchange.CurrencyPair) (rate : Decimal) (he : P e) : P (e.setRate pair rate clock) :=
    hstep (show Engine.Step e ⟨clock, {}⟩ (.setRate pair rate) _ from .rate pair rate) trivial trivial he
  exact hset _ _ usdRate (hset _ _ rate h)

theorem FreshFor.preserves {supply : Uuid.Supply} (fresh : FreshFor rows supply) {config : SettlementConfig}
    (h : P (Engine.opened config)) {rate usdRate : Decimal} {tier : KycTier} {clock : Instant}
    (through : (opened config rate usdRate tier clock supply).carryOut rows = some ended) : P ended.engine := by
  have hended := (fresh.ready config rate usdRate tier clock).carryOut (n := 0) (P := fun r => P r.engine)
    (fun row ready h => ready.apply_preserves hstep h row) (fun row hrow => ⟨row, hrow, rfl⟩) through
    (opened_preserves hstep h rate usdRate tier clock supply)
  exact hended.2

end

/-- After a replay whose records stay on a grid the balances are those that the records account for. -/
theorem FreshFor.booked {supply : Uuid.Supply} (fresh : FreshFor rows supply) {s : Nat} (hs : s ≤ 28)
    (config : SettlementConfig) (rate usdRate : Decimal) (tier : KycTier) (clock : Instant)
    (through : (Replay.opened config rate usdRate tier clock supply).carryOut rows = some ended)
    (hrange : ended.engine.InRange s) : ended.engine.Booked := by
  refine fresh.preserves (P := fun e => e.InRange s → e.Booked) ?_ (fun _ => Engine.booked_opened config) through hrange
  intro e next moment op hstep hindirect hfresh he hnext
  exact (he (hnext.before hstep hfresh)).step hs hstep hindirect hfresh hnext

end Replay
end Settlement
