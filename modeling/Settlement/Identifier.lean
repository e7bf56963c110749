import Settlement.Text.Digits

/-! Identifiers of merchants, payments and payouts, references that payers quote,
and the names of those who act. -/
namespace Settlement

abbrev Uuid := BitVec 128

namespace Uuid

def digits (u : Uuid) : List Char := Text.fixedDigits 16 32 u.toNat

def write (u : Uuid) : List Char :=
  let ds := digits u
  ds.take 8 ++ '-' :: (ds.drop 8).take 4 ++ '-' :: (ds.drop 12).take 4 ++
    '-' :: (ds.drop 16).take 4 ++ '-' :: ds.drop 20

protected def toString (u : Uuid) : String := String.ofList (write u)

def ofDigits? (cs : List Char) : Option Uuid :=
  if cs.length = 32 then (Text.readHex? cs).map (BitVec.ofNat 128) else none

def readGroups? (cs : List Char) : Option Uuid :=
  if [8, 13, 18, 23].all (fun i => cs[i]? == some '-') ∧ cs.length = 36 then
    ofDigits? (cs.take 8 ++ (cs.drop 9).take 4 ++ (cs.drop 14).take 4 ++ (cs.drop 19).take 4 ++ cs.drop 24)
  else none

/-- Reads 32 digits, or five groups, which may stand in braces or behind `urn:uuid:` in either case. -/
def ofString? (s : String) : Option Uuid :=
  let cs := s.toList
  if cs.length = 32 then ofDigits? cs
  else if cs.length = 38 ∧ cs.head? = some '\x7b' ∧ cs.getLast? = some '\x7d' then
    readGroups? (cs.drop 1).dropLast
  else if (cs.take 9).map Char.toLower = "urn:uuid:".toList then readGroups? (cs.drop 9)
  else readGroups? cs

/-- Where fresh identifiers come from: the ones still to be drawn, by number. -/
structure Supply where
  draw : Nat → Uuid
  used : Nat

namespace Supply

def ofDraw (draw : Nat → Uuid) : Supply := ⟨draw, 0⟩

/-- The odd number next to `2 ^ 128` divided by the golden ratio. -/
def stride : Nat := 0x9E3779B97F4A7C15F39CC0605CEDC835

def seeded (start : Uuid) : Supply := ofDraw fun n => start + BitVec.ofNat 128 (n * stride)

def next (s : Supply) : Uuid × Supply := (s.draw s.used, { s with used := s.used + 1 })

end Supply
end Uuid

structure MerchantId where
  uuid : Uuid
  deriving DecidableEq

structure PaymentId where
  uuid : Uuid
  deriving DecidableEq

structure PayoutId where
  uuid : Uuid
  deriving DecidableEq

/-- The memo by which an observed transaction is matched with its payment. -/
structure PaymentReference where
  text : String
  deriving DecidableEq

namespace PaymentReference

/-- `PAY-` and the first twelve digits of a fresh identifier, in upper case. -/
def generate (u : Uuid) : PaymentReference :=
  ⟨String.ofList (['P', 'A', 'Y', '-'] ++ ((Uuid.digits u).take 12).map Char.toUpper)⟩

end PaymentReference

structure ActorId where
  name : String
  deriving DecidableEq

end Settlement
