import Settlement.Decimal.Printer
import Settlement.Decimal.Rounding
import Settlement.Text.Case

/-! Currencies and amounts of money. A currency fixes the number of places of
its smallest unit; amounts keep more places and are cut only when shown. -/
namespace Settlement

structure Currency where
  code : String
  scale : UInt32
  deriving DecidableEq

namespace Currency

def fiatScale : UInt32 := 2

def maxTokenScale : UInt32 := 9

def fiat (code : String) : Currency := ⟨Text.upper code, fiatScale⟩

def token (code : String) (scale : UInt32) : Currency :=
  ⟨Text.upper code, if scale ≤ maxTokenScale then scale else maxTokenScale⟩

/-- Rounds to the smallest unit, a half away from zero. -/
def roundHalfUp (c : Currency) (amount : Decimal) : Decimal :=
  amount.round .halfAwayFromZero c.scale.toNat

def truncate (c : Currency) (amount : Decimal) : Decimal :=
  amount.round .towardZero c.scale.toNat

end Currency

structure Money where
  amount : Decimal
  currency : Currency
  deriving DecidableEq

namespace Money

def isPositive (m : Money) : Bool := decide m.amount.Positive

/-- The amount as it is shown to a payer. -/
def displayed (m : Money) : Decimal := m.currency.truncate m.amount

protected def toString (m : Money) : String := s!"{m.displayed} {m.currency.code}"

instance : ToString Money := ⟨Money.toString⟩

end Money
end Settlement
