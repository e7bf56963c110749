import Settlement.Currency
import Settlement.Decimal.Arithmetic
import Settlement.Error

/-! Conversion of fiat amounts into tokens, and percentage fees. -/
namespace Settlement
namespace Exchange

/-- Fiat units are divided by the price of one token; the quotient keeps its full precision. -/
def convert (fiatAmount rate : Decimal) : Except Fault Decimal := do
  check fiatAmount.Positive .invalidAmount
  check rate.Positive .invalidRate
  require (fiatAmount.div? rate) .invalidAmount

structure FeeBreakdown where
  feePercent : Decimal
  fee : Decimal
  net : Decimal
  deriving DecidableEq

/-- The fee is rounded to the smallest unit, a half up, and the net amount is what remains. -/
def computeFee (amount percent : Decimal) (currency : Currency) : Except Fault FeeBreakdown := do
  check amount.Positive .invalidAmount
  check (Decimal.zero ≤ percent ∧ percent ≤ Decimal.hundred) .invalidFeePercent
  let product ← require (amount.mul? percent) .invalidAmount
  let raw ← unguarded (product.div? Decimal.hundred)
  let fee := currency.roundHalfUp raw
  let net ← unguarded (amount.sub? fee)
  return ⟨percent, fee, net⟩

structure CurrencyPair where
  base : String
  quote : String
  deriving DecidableEq

namespace CurrencyPair

/-- The pair of two codes, which are brought to upper case. -/
def ofCodes (base quote : String) : CurrencyPair := ⟨Text.upper base, Text.upper quote⟩

protected def toString (p : CurrencyPair) : String := s!"{p.base}/{p.quote}"

instance : ToString CurrencyPair := ⟨CurrencyPair.toString⟩

end CurrencyPair
end Exchange
end Settlement
