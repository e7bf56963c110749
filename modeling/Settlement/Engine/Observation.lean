import Settlement.Engine.Invoice

/-! How observations of the chain and the passing of time reach the payments. The
merchant is credited before a completed payment is stored, so a payment whose
credit is refused stays as it was; its volume is counted last. -/
namespace Settlement
namespace Engine

def policy (e : Engine) : ConfirmationPolicy :=
  ⟨e.config.requiredConfirmations, e.config.amountTolerance⟩

def payment? (e : Engine) (id : PaymentId) : Option Payment := e.payments.records.get? id

def locate (e : Engine) (reference : PaymentReference) : Except Fault PaymentId :=
  require (e.payments.references.get? reference) .paymentNotFound

def lockPayment (e : Engine) (held : List PaymentId) (id : PaymentId) : Except Fault Payment :=
  lock (e.payment? id) .paymentNotFound held id

/-- Credits the merchant of a completed payment, stores the payment, and counts it towards the limits
of the merchant. A merchant without a profile has no limits to count towards. -/
def completePayment (moment : Moment) (id : PaymentId) (p : Payment) : Action Unit := do
  let _ ← moveMoney moment p.merchantId (.credit p.netAmount)
  modify (·.storePayment id p)
  let _ ← (recordVolume p.merchantId p.invoiceAmount moment.now).attempt

def handleEvent (moment : Moment) (event : ChainEvent) : Action PaymentTransition := do
  let id ← (← get).locate event.reference
  let p ← (← get).lockPayment moment.held.payments id
  let (next, transition) ← p.applyEvent (← get).policy event moment.now
  match transition with
  | .unchanged _ => return transition
  | .applied _ .completed => do
    completePayment moment id next
    return transition
  | .applied _ _ => do
    modify (·.storePayment id next)
    return transition

structure EventCounts where
  applied : Nat := 0
  unchanged : Nat := 0
  rejected : Nat := 0
  deriving DecidableEq

namespace EventCounts

def count (c : EventCounts) : Except SettlementError PaymentTransition → EventCounts
  | .ok (.applied ..) => { c with applied := c.applied + 1 }
  | .ok (.unchanged _) => { c with unchanged := c.unchanged + 1 }
  | .error _ => { c with rejected := c.rejected + 1 }

end EventCounts

/-- Applies a series of events, each at its own time. A refusal does not stop the series, an overflow
does. -/
def runEvents (held : Locks) (counts : EventCounts) :
    List (ChainEvent × Instant) → Action EventCounts
  | [] => return counts
  | (event, now) :: rest => do
    let result ← (handleEvent ⟨now, held⟩ event).attempt
    runEvents held (counts.count result) rest

/-- What a sweep makes of a payment. It passes over those that others hold. -/
def swept (moment : Moment) (id : PaymentId) (p : Payment) : Payment :=
  if id ∈ moment.held.payments then p else (p.expire moment.now).1

/-- Expires every overdue payment that nobody else holds, and names those that expired. -/
def sweepExpired (e : Engine) (moment : Moment) : Engine × List PaymentId :=
  ({ e with payments := { e.payments with records := e.payments.records.mapValues (swept moment) } },
   (e.payments.records.entries.filter fun entry =>
      entry.1 ∉ moment.held.payments && entry.2.isOverdue moment.now).map Prod.fst)

/-- Reads a payment, which expires first if it is overdue. -/
def readPayment (moment : Moment) (id : PaymentId) : Action Payment := do
  let p ← (← get).lockPayment moment.held.payments id
  match p.expire moment.now with
  | (_, .unchanged _) => return p
  | (expired, .applied _ _) => do
    modify (·.storePayment id expired)
    return expired

def findPayment (moment : Moment) (reference : PaymentReference) : Action Payment := do
  let id ← (← get).locate reference
  readPayment moment id

end Engine
end Settlement
