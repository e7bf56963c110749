import Settlement.Engine.Operation
import Settlement.Replay.Row

/-! The replay of an operation log. Merchants and payouts are known by the labels
that the log gives them. The clock of a replay moves only when the log sweeps. -/
namespace Settlement

inductive ReplayError
  | malformed (reason : String)
  | unknownPayout (label : String)
  | failed (fault : Fault)
  deriving DecidableEq

def ReplayError.message : ReplayError → String
  | malformed reason => s!"malformed row: {reason}"
  | unknownPayout label => s!"unknown payout label {label}"
  | failed (.refused e) => e.message
  | failed .overflow => "arithmetic overflow"

structure Replay where
  engine : Engine
  tier : KycTier
  clock : Instant
  merchants : Table String MerchantId
  payouts : Table String PayoutId
  supply : Uuid.Supply

namespace Replay

/-- A replay without merchants. The prices of the token and of the US dollar are fixed. -/
def opened (config : SettlementConfig) (rate usdRate : Decimal) (tier : KycTier) (clock : Instant)
    (supply : Uuid.Supply) : Replay :=
  let fiat := config.settlementCurrency.code
  let engine := (Engine.opened config).setRate (.ofCodes config.tokenCurrency.code fiat) rate clock
  { engine := engine.setRate (.ofCodes Engine.usd fiat) usdRate clock
    tier
    clock
    merchants := .empty
    payouts := .empty
    supply }

def fresh (r : Replay) : Uuid × Replay :=
  let (id, supply) := r.supply.next
  (id, { r with supply })

def perform (r : Replay) (op : Engine.Operation) : Replay × Except ReplayError Engine.Answer :=
  let (engine, result) := r.engine.perform ⟨r.clock, {}⟩ op
  ({ r with engine }, result.mapError .failed)

/-- The merchant of a label; it is registered when the label is first seen. -/
def merchant (r : Replay) (label : String) : Except ReplayError (Replay × MerchantId) :=
  if label.isEmpty then .error (.malformed "merchant is required")
  else
    match r.merchants.get? label with
    | some id => .ok (r, id)
    | none =>
      let (id, r) := r.fresh
      let r := (r.perform (.registerMerchant ⟨id⟩ r.tier)).1
      .ok ({ r with merchants := r.merchants.insert label ⟨id⟩ }, ⟨id⟩)

/-- What a row did: nothing to report, or a sweep that expired so many payments. -/
inductive Effect
  | applied
  | swept (count : Nat)
  deriving DecidableEq

def noAmount : ReplayError := .malformed "amount is required"

def finish (step : Replay × Except ReplayError Engine.Answer) : Replay × Except ReplayError Effect :=
  (step.1, step.2.map fun _ => .applied)

def invoice (r : Replay) (row : LogRow) : Replay × Except ReplayError Effect :=
  match r.merchant row.merchant, row.amount with
  | .error e, _ => (r, .error e)
  | .ok (r, _), none => (r, .error noAmount)
  | .ok (r, merchantId), some amount =>
    let (id, r) := r.fresh
    let (memo, r) := r.fresh
    finish (r.perform (.createInvoice ⟨⟨id⟩, .generate memo⟩ {
      merchantId
      amount
      reference := if row.reference.isEmpty then none else some ⟨row.reference⟩
      chain := "tron"
      destinationWallet := "replay-hot-wallet"
      payer := none }))

def observe (r : Replay) (row : LogRow) : Replay × Except ReplayError Effect :=
  match row.amount with
  | none => (r, .error noAmount)
  | some observedAmount =>
    finish (r.perform (.handleEvent {
      reference := ⟨row.reference⟩
      txHash := if row.detail.isEmpty then none else some row.detail
      senderAddress := row.actor
      observedAmount
      confirmationDepth := row.depth.getD 0
      finalized := row.finalized.getD false
      error := none }))

/-- Requests a payout, and remembers its label if the request is granted. -/
def request (r : Replay) (row : LogRow) : Replay × Except ReplayError Effect :=
  match r.merchant row.merchant with
  | .error e => (r, .error e)
  | .ok (r, merchantId) =>
    if row.reference.isEmpty then (r, .error (.malformed "payout label is required"))
    else
      match row.amount with
      | none => (r, .error noAmount)
      | some amount =>
        let (id, r) := r.fresh
        let bank : BankDetails := ⟨"replay", row.detail, row.merchant, none⟩
        match r.perform (.requestPayout ⟨id⟩ ⟨merchantId, amount, bank, ⟨row.actor⟩⟩) with
        | (r, .error e) => (r, .error e)
        | (r, .ok _) => ({ r with payouts := r.payouts.insert row.reference ⟨id⟩ }, .ok .applied)

def act (r : Replay) (row : LogRow) (action : PayoutAction) : Replay × Except ReplayError Effect :=
  match r.payouts.get? row.reference with
  | none => (r, .error (.unknownPayout row.reference))
  | some id => finish (r.perform (.actOnPayout id ⟨row.actor⟩ action))

/-- Moves the clock by whole seconds, and expires what is overdue then. -/
def sweep (r : Replay) (row : LogRow) : Replay × Except ReplayError Effect :=
  match r.clock.plusSeconds? (row.amount.getD .zero).wholePart with
  | none => (r, .error (.malformed "sweep seconds out of range"))
  | some clock =>
    let (engine, ids) := r.engine.sweepExpired ⟨clock, {}⟩
    ({ r with engine, clock }, .ok (.swept ids.length))

/-- Carries out a row. The kind of an operation may be in any case. -/
def apply (r : Replay) (row : LogRow) : Replay × Except ReplayError Effect :=
  match Text.lower row.kind with
  | "invoice" => r.invoice row
  | "observe" => r.observe row
  | "payout" => r.request row
  | "approve" => r.act row .approve
  | "process" => r.act row .startProcessing
  | "complete" => r.act row (.complete row.detail)
  | "reject" => r.act row (.reject row.detail)
  | "fail" => r.act row (.fail row.detail)
  | "sweep" => r.sweep row
  | _ => (r, .error (.malformed "unknown operation type"))

end Replay
end Settlement
