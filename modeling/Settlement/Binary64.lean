import Settlement.Decimal.Rounding
import Settlement.Text.Digits

/-! Decimal numerals in double precision: the nearest of the numbers
`mantissa * 2 ^ exponent` with a mantissa below `2 ^ 53` and an exponent between
-1074 and 971, and the shortest numeral that is nearest to such a number. All
of it is exact arithmetic with natural numbers. -/
namespace Settlement

attribute [local instance (high)] instPowNat

/-- A nonnegative number in double precision. -/
structure Binary64 where
  mantissa : Nat
  exponent : Int
  deriving DecidableEq

namespace Binary64

def bitLength (n : Nat) : Nat := if n = 0 then 0 else n.log2 + 1

def powerOfTwo (e : Int) : Nat × Nat := if 0 ≤ e then (2 ^ e.toNat, 1) else (1, 2 ^ (-e).toNat)

def powerOfTen (e : Int) : Nat × Nat := if 0 ≤ e then (10 ^ e.toNat, 1) else (1, 10 ^ (-e).toNat)

/-- The fraction `n / d` in units of `2 ^ e`, rounded half to even. -/
def inUnits (n d : Nat) (e : Int) : Nat :=
  let unit := powerOfTwo e
  Rounding.halfToEven.divide (n * unit.2) (d * unit.1)

def exponentFor (n d : Nat) : Int :=
  let guess : Int := (bitLength n : Int) - bitLength d - 53
  let exponent :=
    let unit := powerOfTwo guess
    if 2 ^ (53 : Nat) ≤ n * unit.2 / (d * unit.1) then guess + 1
    else if n * unit.2 / (d * unit.1) < 2 ^ (52 : Nat) then guess - 1
    else guess
  max exponent (-1074)

/-- The number nearest to `n / d`; `none` above the largest one. -/
def ofFraction? (n d : Nat) : Option Binary64 :=
  let e := exponentFor n d
  let m := inUnits n d e
  let (m, e) := if m < 2 ^ (53 : Nat) then (m, e) else (m / 2, e + 1)
  if e ≤ 971 then some ⟨m, e⟩ else none

def nearest? (n : Nat) (power : Int) : Option Binary64 :=
  let size : Int := Text.digitCount n + power
  if n = 0 ∨ size < -330 then some ⟨0, -1074⟩
  else if 310 < size then none
  else
    let scale := powerOfTen power
    ofFraction? (n * scale.1) scale.2

def toFraction (x : Binary64) : Nat × Nat :=
  let unit := powerOfTwo x.exponent
  (x.mantissa * unit.1, unit.2)

/-- Whether `n * 10 ^ power` rounds to `x`: it lies between the halfway points to the neighbours of
`x`, which belong to `x` if its mantissa is even. -/
def roundsTo (x : Binary64) (n : Nat) (power : Int) : Bool :=
  let quarter := powerOfTwo (x.exponent - 2)
  let scale := powerOfTen power
  let value := n * scale.1 * quarter.2
  let unit := scale.2 * quarter.1
  let below := if x.mantissa = 2 ^ (52 : Nat) ∧ -1074 < x.exponent then 1 else 2
  let low := (4 * x.mantissa - below) * unit
  let high := (4 * x.mantissa + 2) * unit
  if x.mantissa % 2 = 0 then low ≤ value && value ≤ high else low < value && value < high

def mul? (x y : Binary64) : Option Binary64 :=
  let (a, b) := x.toFraction
  let (c, d) := y.toFraction
  ofFraction? (a * c) (b * d)

/-- The numeral of `x` with the last digit at `10 ^ power`, if one rounds to it: the nearer of the
two neighbours of `x`, and the upper one if `x` is halfway. -/
def candidate? (x : Binary64) (power : Int) : Option (Nat × Int) :=
  let (n, d) := x.toFraction
  let scale := powerOfTen power
  let num := n * scale.2
  let den := d * scale.1
  let down := num / den
  let near := Rounding.halfAwayFromZero.divide num den
  let far := if near = down then down + 1 else down
  if x.roundsTo near power then some (near, power)
  else if x.roundsTo far power then some (far, power)
  else none

def magnitude (x : Binary64) : Int :=
  let (n, d) := x.toFraction
  let guess : Int := (Text.digitCount n : Int) - Text.digitCount d
  let scale := powerOfTen guess
  if d * scale.1 ≤ n * scale.2 then guess + 1 else guess

/-- The fewest digits that are nearest to `x` and to no other number, and the power of ten of the
last one. A single digit may come out as ten. -/
def shortest (x : Binary64) : Nat × Int :=
  if x.mantissa = 0 then (0, 0)
  else
    match (List.range 17).findSome? fun k => x.candidate? (x.magnitude - (k + 1 : Nat)) with
    | some (10, power) => (1, power + 1)
    | some numeral => numeral
    | none => (0, 0)

def write (x : Binary64) : List Char :=
  let (digits, power) := x.shortest
  if 0 ≤ power then Text.decimalDigits (digits * 10 ^ power.toNat)
  else
    let places := (-power).toNat
    let cs := Text.paddedDigits (places + 1) digits
    cs.take (cs.length - places) ++ '.' :: cs.drop (cs.length - places)

end Binary64
end Settlement
