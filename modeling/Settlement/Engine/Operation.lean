import Settlement.Engine.Invoice
import Settlement.Engine.Observation
import Settlement.Engine.Payouts

/-! All operations of an engine, and runs of them. -/
namespace Settlement
namespace Engine

/-- A call of the engine. Identifiers that it may hand out come with it. -/
inductive Operation
  | registerMerchant (merchant : MerchantId) (tier : KycTier)
  | setRate (pair : Exchange.CurrencyPair) (rate : Decimal)
  | createInvoice (fresh : FreshPayment) (invoice : NewInvoice)
  | handleEvent (event : ChainEvent)
  /-- A series of events, each with the time at which it is handled. -/
  | runEvents (events : List (ChainEvent × Instant))
  | sweepExpired
  | readPayment (id : PaymentId)
  | findPayment (reference : PaymentReference)
  | requestPayout (fresh : PayoutId) (request : PayoutRequest)
  | actOnPayout (id : PayoutId) (actor : ActorId) (action : PayoutAction)
  | resubmit (id fresh : PayoutId) (actor : ActorId)
  | readPayout (id : PayoutId)
  /-- The payouts of a merchant; the rank is the order in which the store is gone through. -/
  | payoutsFor (merchant : MerchantId) (rank : PayoutId → Nat := fun _ => 0)
  | moveMoney (merchant : MerchantId) (op : LedgerOp)
  | openAccount (merchant : MerchantId)
  | registerProfile (merchant : MerchantId) (tier : KycTier)
  | setTier (merchant : MerchantId) (tier : KycTier)
  | evaluate (merchant : MerchantId) (amount usdEquivalent : Decimal) (payer : Option PayerIdentity)
  | recordVolume (merchant : MerchantId) (amount : Decimal)
  | remaining (merchant : MerchantId)

inductive Answer
  | done
  | payment (p : Payment)
  | transition (t : PaymentTransition)
  | counts (c : EventCounts)
  | expired (ids : List PaymentId)
  | payout (p : Payout)
  | payouts (ps : List Payout)
  | balance (b : Balance)
  | rows (count : Nat)
  | verdict (r : GateResult)
  | allowance (left : Option Decimal)
  deriving DecidableEq

def Operation.action (moment : Moment) : Operation → Action Answer
  | .registerMerchant merchant tier => do
    modify (·.registerMerchant merchant tier moment.now)
    return .done
  | .setRate pair rate => do
    modify (·.setRate pair rate moment.now)
    return .done
  | .createInvoice fresh invoice => .payment <$> Engine.createInvoice fresh invoice moment.now
  | .handleEvent event => .transition <$> Engine.handleEvent moment event
  | .runEvents events => .counts <$> Engine.runEvents moment.held {} events
  | .sweepExpired => do
    let (next, ids) := (← get).sweepExpired moment
    set next
    return .expired ids
  | .readPayment id => .payment <$> Engine.readPayment moment id
  | .findPayment reference => .payment <$> Engine.findPayment moment reference
  | .requestPayout fresh request => .payout <$> Engine.requestPayout moment fresh request
  | .actOnPayout id actor action => .payout <$> Engine.actOnPayout moment id actor action
  | .resubmit id fresh actor => .payout <$> Engine.resubmit moment id fresh actor
  | .readPayout id => do return .payout (← (← get).lockPayout moment.held.payouts id)
  | .payoutsFor merchant rank => do return .payouts ((← get).payoutsFor merchant rank)
  | .moveMoney merchant op => .balance <$> Engine.moveMoney moment merchant op
  | .openAccount merchant => do
    modify fun e => { e with ledger := e.ledger.openAccount merchant moment.now }
    return .rows (← get).ledger.balances.size
  | .registerProfile merchant tier => do
    modify fun e => { e with gate := e.gate.register merchant tier moment.now }
    return .done
  | .setTier merchant tier => do
    Engine.setTier merchant tier
    return .done
  | .evaluate merchant amount usdEquivalent payer => do
    return .verdict (← (← get).gate.evaluate merchant amount usdEquivalent payer moment.now)
  | .recordVolume merchant amount => do
    Engine.recordVolume merchant amount moment.now
    return .done
  | .remaining merchant => do return .allowance (← (← get).gate.remaining merchant moment.now)

def perform (e : Engine) (moment : Moment) (op : Operation) : Engine × Except Fault Answer :=
  (op.action moment).on e

def run (e : Engine) : List (Moment × Operation) → Engine
  | [] => e
  | (moment, op) :: rest => ((e.perform moment op).1).run rest

/-- The engines that an engine with the given settings can become. -/
inductive Reachable (config : SettlementConfig) : Engine → Prop
  | opened : Reachable config (Engine.opened config)
  | step {e : Engine} (moment : Moment) (op : Operation) (h : Reachable config e) :
    Reachable config (e.perform moment op).1

theorem reachable_run {config : SettlementConfig} {e : Engine} (h : Reachable config e)
    (ops : List (Moment × Operation)) : Reachable config (e.run ops) := by
  induction ops generalizing e with
  | nil => exact h
  | cons step rest ih => exact ih (.step step.1 step.2 h)

end Engine
end Settlement
