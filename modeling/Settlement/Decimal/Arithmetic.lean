import Settlement.Decimal.Rounding

/-! Sums, products and quotients. Each is computed exactly and then cut back to
what a decimal can hold; `none` means that the whole part does not fit. -/
namespace Settlement

attribute [local instance (high)] instPowNat

namespace Decimal

/-- The exact value `coefficient / 10 ^ scale`, without the fewest digits that make it fit.
The dropped part is rounded half to even. -/
def reduce (coefficient : Int) (scale : Nat) : Option Decimal :=
  (List.range (scale + 1)).findSome? fun k =>
    ofParts? (Rounding.halfToEven.dropDigits coefficient k) (scale - k)

theorem reduce_of_fits {c : Int} {s : Nat} {d : Decimal} (h : ofParts? c s = some d) :
    reduce c s = some d := by
  rw [reduce, List.range_succ_eq_map, List.findSome?_cons]
  simp [h]

def coefficientAt (d : Decimal) (scale : Nat) : Int := d.coefficient * 10 ^ (scale - d.scale)

/-- The sum at the larger of the two scales. A zero operand leaves the other one as it is. -/
def add? (a b : Decimal) : Option Decimal :=
  if a.coefficient = 0 then some b
  else if b.coefficient = 0 then some a
  else
    let scale := max a.scale b.scale
    reduce (a.coefficientAt scale + b.coefficientAt scale) scale

def sub? (a b : Decimal) : Option Decimal := a.add? b.neg

/-- The product at the sum of the scales. Two small factors with more than 47 places together
vanish. -/
def mul? (a b : Decimal) : Option Decimal :=
  if a.coefficient = 0 ∨ b.coefficient = 0 then some zero
  else if a.coefficient.natAbs < 2 ^ (32 : Nat) ∧ b.coefficient.natAbs < 2 ^ (32 : Nat) ∧ 47 < a.scale + b.scale then
    some zero
  else reduce (a.coefficient * b.coefficient) (a.scale + b.scale)

/-- A quotient in the making: `quotient + remainder / divisor` over `10 ^ scale`. -/
structure Quotient where
  quotient : Nat
  remainder : Nat
  scale : Int
  inexact : Bool
  deriving DecidableEq

namespace Quotient

/-- The most digits, up to nine, that can be appended at once. -/
def growth (q : Quotient) : Nat :=
  ((List.range 10).reverse.find? fun (k : Nat) => q.scale + k ≤ 28 ∧ q.quotient * 10 ^ k < 2 ^ (96 : Nat)).getD 0

def extend (q : Quotient) (divisor k : Nat) : Option Quotient :=
  if q.quotient * 10 ^ k < 2 ^ (96 : Nat) then
    some { q with
      quotient := q.quotient * 10 ^ k + q.remainder * 10 ^ k / divisor
      remainder := q.remainder * 10 ^ k % divisor
      scale := q.scale + k }
  else none

def close (q : Quotient) (divisor : Nat) : Option Quotient :=
  let rounded := Rounding.halfToEven.divide (q.quotient * divisor + q.remainder) divisor
  if rounded < 2 ^ (96 : Nat) then some { q with quotient := rounded }
  else if q.scale = 0 then none
  else some { q with quotient := (rounded + 4) / 10, scale := q.scale - 1 }

def shorten (q : Quotient) (divisor : Nat) : Option Quotient :=
  if q.scale < 1 then none
  else some { q with
    quotient := Rounding.halfToEven.divide (q.quotient * divisor + q.remainder) (10 * divisor)
    scale := q.scale - 1 }

/-- Long division, some digits at a time, until nothing remains or no digit fits any more.
Each round raises the scale, which lies between -28 and 28, so `rounds` never runs out. -/
def divide (divisor : Nat) : (rounds : Nat) → Quotient → Option Quotient
  | 0, _ => none
  | rounds + 1, q =>
    if q.remainder = 0 then
      if 0 ≤ q.scale then some q
      else (q.extend divisor (min 9 (-q.scale).toNat)).bind (divide divisor rounds)
    else
      let q : Quotient := { q with inexact := true }
      let k : Nat := q.growth
      if k < 9 ∧ q.scale ≠ 28 ∧ q.scale + k < 0 then none
      else if k = 0 then q.close divisor
      else (q.extend divisor k).bind fun longer =>
        if longer.quotient < 2 ^ (96 : Nat) then divide divisor rounds longer else longer.shorten divisor

def strip (k : Nat) (q : Quotient) : Quotient :=
  if (k : Int) ≤ q.scale ∧ q.quotient % 10 ^ k = 0 then
    { q with quotient := q.quotient / 10 ^ k, scale := q.scale - k }
  else q

def stripEights : (rounds : Nat) → Quotient → Quotient
  | 0, q => q
  | rounds + 1, q =>
    if q.quotient % 2 ^ (32 : Nat) = 0 ∧ 8 ≤ q.scale ∧ q.quotient % 10 ^ (8 : Nat) = 0 then
      stripEights rounds (q.strip 8)
    else q

/-- Removes trailing zeros: eights, then at most one four, one two and one single. -/
def stripZeros (q : Quotient) : Quotient := strip 1 (strip 2 (strip 4 (stripEights 4 q)))

end Quotient

/-- The quotient. One that needed a remainder loses its trailing zeros, in steps of fixed size;
one that came out at once keeps the scale that it has. -/
def div? (a b : Decimal) : Option Decimal :=
  if b.coefficient = 0 then none
  else if a.coefficient = 0 then some zero
  else
    let n := a.coefficient.natAbs
    let d := b.coefficient.natAbs
    let start : Quotient := ⟨n / d, n % d, a.scale - b.scale, false⟩
    (start.divide d 64).bind fun q =>
      let q := if q.inexact then q.stripZeros else q
      ofParts? (a.coefficient.sign * b.coefficient.sign * q.quotient) q.scale.toNat

end Decimal
end Settlement
