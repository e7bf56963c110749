import Settlement.Balance
import Settlement.Table

/-! The balances of all merchants. A balance that someone else holds cannot be
moved; the attempt times out before anything else is looked at. -/
namespace Settlement

structure Ledger where
  balances : Table MerchantId Balance

namespace Ledger

def empty : Ledger := ⟨.empty⟩

def balance? (l : Ledger) (merchant : MerchantId) : Option Balance := l.balances.get? merchant

def openAccount (l : Ledger) (merchant : MerchantId) (now : Instant) : Ledger :=
  match l.balance? merchant with
  | some _ => l
  | none => ⟨l.balances.insert merchant (.opened merchant now)⟩

/-- Moves money within the balance of a merchant, unless it is one of those `held` by others. -/
def apply (l : Ledger) (held : List MerchantId) (merchant : MerchantId) (op : LedgerOp)
    (now : Instant) : Except Fault (Ledger × Balance) := do
  let balance ← require (l.balance? merchant) .merchantNotFound
  check (merchant ∉ held) .timeout
  let next ← balance.apply op now
  return (⟨l.balances.insert merchant next⟩, next)

end Ledger
end Settlement
