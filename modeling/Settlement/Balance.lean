import Settlement.Decimal.Arithmetic
import Settlement.Decimal.Printer
import Settlement.Error
import Settlement.Identifier
import Settlement.Time.Instant

/-! The balance of one merchant. Money comes in by a credit; a payout reserves it,
and then either releases it again or settles it. -/
namespace Settlement

/-- A movement of money within a balance. -/
inductive LedgerOp
  | credit (amount : Decimal)
  | reserve (amount : Decimal)
  | release (amount : Decimal)
  | settle (amount : Decimal)
  deriving DecidableEq

namespace LedgerOp

def amount : LedgerOp → Decimal
  | credit a | reserve a | release a | settle a => a

def name : LedgerOp → String
  | credit _ => "credit"
  | reserve _ => "reserve"
  | release _ => "release"
  | settle _ => "settle"

end LedgerOp

structure Balance where
  merchantId : MerchantId
  available : Decimal
  pending : Decimal
  totalReceived : Decimal
  totalPaidOut : Decimal
  updatedAt : Instant
  deriving DecidableEq

namespace Balance

def opened (merchantId : MerchantId) (now : Instant) : Balance :=
  ⟨merchantId, .zero, .zero, .zero, .zero, now⟩

/-- The row after a movement, before its sums are checked. -/
def moved (b : Balance) : LedgerOp → Except Fault Balance
  | .credit amount => do
    let available ← unguarded (b.available.add? amount)
    let totalReceived ← unguarded (b.totalReceived.add? amount)
    return { b with available, totalReceived }
  | .reserve amount => do
    check (amount ≤ b.available) .insufficientFunds
    let available ← unguarded (b.available.sub? amount)
    let pending ← unguarded (b.pending.add? amount)
    return { b with available, pending }
  | .release amount => do
    let pending ← unguarded (b.pending.sub? amount)
    let available ← unguarded (b.available.add? amount)
    return { b with available, pending }
  | .settle amount => do
    let pending ← unguarded (b.pending.sub? amount)
    let totalPaidOut ← unguarded (b.totalPaidOut.add? amount)
    return { b with pending, totalPaidOut }

/-- Nothing is negative, and what came in and was not paid out is available or pending. -/
def checkSums (b : Balance) : Except Fault Unit := do
  check (Decimal.zero ≤ b.available)
    (.ledgerInvariantViolation s!"available would go negative: {b.available}")
  check (Decimal.zero ≤ b.pending)
    (.ledgerInvariantViolation s!"pending would go negative: {b.pending}")
  let kept ← unguarded (b.totalReceived.sub? b.totalPaidOut)
  let held ← unguarded (b.available.add? b.pending)
  check (kept.SameValue held)
    (.ledgerInvariantViolation
      s!"funds not conserved: received {b.totalReceived} - paid out {b.totalPaidOut} != available {b.available} + pending {b.pending}")

def apply (b : Balance) (op : LedgerOp) (now : Instant) : Except Fault Balance := do
  check op.amount.Positive .invalidAmount
  let next ← b.moved op
  next.checkSums
  return { next with updatedAt := now }

def statementScale : Nat := 2

/-- The row as a statement shows it: a half goes to the even neighbour. -/
def statement (b : Balance) : Balance :=
  let shown (d : Decimal) := d.round .halfToEven statementScale
  { b with
    available := shown b.available
    pending := shown b.pending
    totalReceived := shown b.totalReceived
    totalPaidOut := shown b.totalPaidOut }

end Balance
end Settlement
