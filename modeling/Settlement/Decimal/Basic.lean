/-! Decimal fractions with a coefficient below `2 ^ 96` and at most 28 places.
The number of places belongs to the value, so `1` and `1.00` are different
decimals that compare as equal numbers. So are `0` and `-0`. -/
namespace Settlement

-- a power of naturals is the one of the core library, so that no definition depends on what else is imported
attribute [local instance (high)] instPowNat

/-- The number `coefficient / 10 ^ scale`. -/
structure Decimal where
  coefficient : Int
  scale : Nat
  coefficient_lt : coefficient.natAbs < 2 ^ (96 : Nat)
  scale_le : scale ≤ 28
  /-- A zero may carry a minus sign. It shows in the written form and nowhere else. -/
  minusZero : Bool
  coefficient_of_minusZero : minusZero = true → coefficient = 0
  deriving DecidableEq

namespace Decimal

/-- The decimal with the given parts; a zero has no sign. -/
def ofParts (coefficient : Int) (scale : Nat) (coefficient_lt : coefficient.natAbs < 2 ^ (96 : Nat) := by decide)
    (scale_le : scale ≤ 28 := by decide) : Decimal :=
  ⟨coefficient, scale, coefficient_lt, scale_le, false, nofun⟩

def ofParts? (coefficient : Int) (scale : Nat) : Option Decimal :=
  if h : coefficient.natAbs < 2 ^ (96 : Nat) ∧ scale ≤ 28 then some (ofParts coefficient scale h.1 h.2) else none

theorem ofParts?_eq_some {c : Int} {s : Nat} {d : Decimal} :
    ofParts? c s = some d ↔ d.coefficient = c ∧ d.scale = s ∧ d.minusZero = false := by
  obtain ⟨c', s', hc, hs, z, hz⟩ := d
  unfold ofParts?
  split
  · next h =>
    simp only [ofParts, Option.some.injEq, mk.injEq]
    grind
  · next h =>
    constructor
    · rintro ⟨⟩
    · rintro ⟨rfl, rfl, _⟩
      exact absurd ⟨hc, hs⟩ h

theorem ofParts?_self {d : Decimal} (h : d.minusZero = false) :
    ofParts? d.coefficient d.scale = some d :=
  ofParts?_eq_some.mpr ⟨rfl, rfl, h⟩

def markZero (negative : Bool) (d : Decimal) : Decimal :=
  { d with
    minusZero := negative && decide (d.coefficient = 0)
    coefficient_of_minusZero := by simp }

def ofNat (n : Nat) (h : n < 2 ^ (96 : Nat) := by decide) : Decimal := ofParts n 0 h

def zero : Decimal := ofNat 0

def hundred : Decimal := ofNat 100

/-- The coefficient that `d` would have with 28 places; it orders decimals by value. -/
def aligned (d : Decimal) : Int := d.coefficient * 10 ^ (28 - d.scale)

instance : LT Decimal := ⟨fun a b => a.aligned < b.aligned⟩
instance : LE Decimal := ⟨fun a b => a.aligned ≤ b.aligned⟩
instance (a b : Decimal) : Decidable (a < b) := inferInstanceAs (Decidable (a.aligned < b.aligned))
instance (a b : Decimal) : Decidable (a ≤ b) := inferInstanceAs (Decidable (a.aligned ≤ b.aligned))

def SameValue (a b : Decimal) : Prop := a.aligned = b.aligned

instance (a b : Decimal) : Decidable (SameValue a b) :=
  inferInstanceAs (Decidable (a.aligned = b.aligned))

theorem lt_iff {a b : Decimal} : a < b ↔ a.aligned < b.aligned := Iff.rfl

theorem le_iff {a b : Decimal} : a ≤ b ↔ a.aligned ≤ b.aligned := Iff.rfl

theorem not_le {a b : Decimal} : ¬ a ≤ b ↔ b < a := Int.not_le

theorem not_lt {a b : Decimal} : ¬ a < b ↔ b ≤ a := Int.not_lt

def smaller (a b : Decimal) : Decimal := if a ≤ b then a else b

def larger (a b : Decimal) : Decimal := if a < b then b else a

/-- The number with the other sign; a zero is kept as it is. -/
def neg (d : Decimal) : Decimal :=
  { d with
    coefficient := -d.coefficient
    coefficient_lt := by rw [Int.natAbs_neg]; exact d.coefficient_lt
    coefficient_of_minusZero := fun h => by rw [d.coefficient_of_minusZero h]; rfl }

def abs (d : Decimal) : Decimal :=
  ofParts d.coefficient.natAbs d.scale (by rw [Int.natAbs_natCast]; exact d.coefficient_lt) d.scale_le

def Positive (d : Decimal) : Prop := 0 < d.coefficient

instance (d : Decimal) : Decidable d.Positive := inferInstanceAs (Decidable (0 < d.coefficient))

theorem positive_iff {d : Decimal} : d.Positive ↔ zero < d := by
  have hp : (0 : Int) < 10 ^ (28 - d.scale) := Int.pow_pos (by decide)
  show 0 < d.coefficient ↔ (0 : Int) * 10 ^ (28 - 0) < d.coefficient * 10 ^ (28 - d.scale)
  rw [Int.zero_mul]
  exact ⟨fun h => Int.mul_pos h hp, fun h => Int.pos_of_mul_pos_left h hp⟩

end Decimal
end Settlement
