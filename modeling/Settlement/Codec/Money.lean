import Settlement.Codec.Basic
import Settlement.RateTable

/-! The written form of currencies, money, fees and rates. -/
namespace Settlement

open Coded Exchange

instance : Coded Currency where
  encode c := .obj [("code", encode c.code), ("scale", encode c.scale)]
  decode format j := do
    let r ← Record.of? format 2 j
    return ⟨← r.required format 0 "code", ← r.required format 1 "scale"⟩

instance : Coded Money where
  encode m := .obj [("amount", encode m.amount), ("currency", encode m.currency)]
  decode format j := do
    let r ← Record.of? format 2 j
    return ⟨← r.required format 0 "amount", ← r.required format 1 "currency"⟩

instance : Coded FeeBreakdown where
  encode f := .obj [("fee_percent", encode f.feePercent), ("fee", encode f.fee), ("net", encode f.net)]
  decode format j := do
    let r ← Record.of? format 3 j
    return ⟨← r.required format 0 "fee_percent", ← r.required format 1 "fee",
      ← r.required format 2 "net"⟩

instance : Coded CurrencyPair where
  encode p := .obj [("base", encode p.base), ("quote", encode p.quote)]
  decode format j := do
    let r ← Record.of? format 2 j
    return ⟨← r.required format 0 "base", ← r.required format 1 "quote"⟩

instance : Coded RateQuote where
  encode q := .obj [("pair", encode q.pair), ("rate", encode q.rate), ("as_of", encode q.asOf)]
  decode format j := do
    let r ← Record.of? format 3 j
    return ⟨← r.required format 0 "pair", ← r.required format 1 "rate", ← r.required format 2 "as_of"⟩

end Settlement
