import Settlement.Decimal.Basic

/-! Rounding to fewer places. A decimal that already has no more places than
asked for is kept as it is, trailing zeros included. A zero keeps its sign; a
number that becomes zero loses it. -/
namespace Settlement

attribute [local instance (high)] instPowNat

inductive Rounding
  | halfAwayFromZero | halfToEven | towardZero
  deriving DecidableEq

namespace Rounding

def divide (mode : Rounding) (n d : Nat) : Nat :=
  match mode with
  | .towardZero => n / d
  | .halfAwayFromZero => if d ≤ 2 * (n % d) then n / d + 1 else n / d
  | .halfToEven =>
    if 2 * (n % d) < d ∨ 2 * (n % d) = d ∧ n / d % 2 = 0 then n / d else n / d + 1

theorem divide_le (mode : Rounding) (n d : Nat) : mode.divide n d ≤ n / d + 1 := by
  cases mode <;> simp only [divide] <;> (repeat' split) <;> omega

theorem divide_mul (mode : Rounding) (q : Nat) {d : Nat} (hd : 0 < d) : mode.divide (q * d) d = q := by
  cases mode <;> simp [divide, Nat.mul_div_cancel _ hd] <;> omega

/-- The signed coefficient without its last `k` digits. -/
def dropDigits (mode : Rounding) (coefficient : Int) (k : Nat) : Int :=
  coefficient.sign * mode.divide coefficient.natAbs (10 ^ k)

@[simp] theorem dropDigits_zero (mode : Rounding) (c : Int) : mode.dropDigits c 0 = c := by
  have h := divide_mul mode c.natAbs (Nat.one_pos)
  rw [Nat.mul_one] at h
  simp only [dropDigits, Nat.pow_zero, h]
  exact Int.sign_mul_natAbs c

theorem natAbs_dropDigits (mode : Rounding) (c : Int) (k : Nat) :
    (mode.dropDigits c k).natAbs ≤ mode.divide c.natAbs (10 ^ k) := by
  rw [dropDigits, Int.natAbs_mul, Int.natAbs_natCast]
  rcases Int.lt_trichotomy c 0 with h | h | h
  · rw [Int.sign_eq_neg_one_of_neg h]
    simp
  · simp [h]
  · rw [Int.sign_eq_one_of_pos h]
    simp

end Rounding

namespace Decimal

theorem natAbs_dropDigits_lt (mode : Rounding) (d : Decimal) (k : Nat) :
    (mode.dropDigits d.coefficient k).natAbs < 2 ^ (96 : Nat) := by
  cases k with
  | zero => simpa using d.coefficient_lt
  | succ k =>
    have h₁ := mode.natAbs_dropDigits d.coefficient (k + 1)
    have h₂ := mode.divide_le d.coefficient.natAbs (10 ^ (k + 1))
    have h₃ : d.coefficient.natAbs / 10 ^ (k + 1) ≤ d.coefficient.natAbs / 10 := by
      apply Nat.div_le_div_left _ (by decide)
      exact Nat.le_self_pow (by omega) 10
    have h₄ := d.coefficient_lt
    omega

def round (mode : Rounding) (places : Nat) (d : Decimal) : Decimal :=
  if h : d.scale ≤ places then d
  else ⟨mode.dropDigits d.coefficient (d.scale - places), places, d.natAbs_dropDigits_lt mode _,
    by have := d.scale_le; omega, d.minusZero,
    fun hz => by rw [d.coefficient_of_minusZero hz]; exact Int.zero_mul _⟩

theorem round_of_scale_le (mode : Rounding) {places : Nat} {d : Decimal} (h : d.scale ≤ places) :
    d.round mode places = d := by
  simp [round, h]

theorem scale_round_le (mode : Rounding) (places : Nat) (d : Decimal) :
    (d.round mode places).scale ≤ places := by
  unfold round
  split
  · assumption
  · exact Nat.le_refl _

def wholePart (d : Decimal) : Int := (d.round .towardZero 0).coefficient

end Decimal
end Settlement
