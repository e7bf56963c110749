import Settlement.Exchange
import Settlement.Table
import Settlement.Time.Instant

/-! Exchange rates as last set. A rate is the price of one unit of the base
currency in the quote currency. -/
namespace Settlement

open Exchange

structure RateQuote where
  pair : CurrencyPair
  rate : Decimal
  asOf : Instant
  deriving DecidableEq

structure RateTable where
  quotes : Table CurrencyPair RateQuote

namespace RateTable

def empty : RateTable := ⟨.empty⟩

def setRate (t : RateTable) (pair : CurrencyPair) (rate : Decimal) (now : Instant) : RateTable :=
  ⟨t.quotes.insert pair ⟨pair, rate, now⟩⟩

def rate (t : RateTable) (pair : CurrencyPair) : Except Fault RateQuote :=
  require (t.quotes.get? pair) (.rateUnavailable pair.toString)

end RateTable
end Settlement
