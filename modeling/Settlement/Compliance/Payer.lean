import Settlement.Error
import Settlement.Text.Blank
import Settlement.Text.Quoted

/-! The identity of a payer, which payments of high value need. -/
namespace Settlement

structure PayerIdentity where
  fullName : String
  walletAddress : String
  /-- Two letters, as in ISO 3166-1. -/
  countryCode : String
  idDocument : Option String
  deriving DecidableEq

namespace PayerIdentity

def isCountryCode (s : String) : Bool :=
  s.toList.length = 2 && s.toList.all fun c => decide ('A' ≤ c) && decide (c ≤ 'Z')

def validate (p : PayerIdentity) : Except Fault Unit := do
  check (Text.isBlankString p.fullName = false) (.invalidPayerIdentity "full name is required")
  check (Text.isBlankString p.walletAddress = false)
    (.invalidPayerIdentity "wallet address is required")
  check (isCountryCode p.countryCode)
    (.invalidPayerIdentity
      ("country code must be two uppercase letters, got " ++ Text.quoted p.countryCode))

end PayerIdentity
end Settlement
