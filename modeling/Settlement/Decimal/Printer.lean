import Settlement.Decimal.Basic
import Settlement.Text.Digits

/-! The written form of a decimal: a minus sign below zero or at a zero that
carries one, the whole part, and as many places as its scale has. -/
namespace Settlement
namespace Decimal

def writeDigits (coefficient scale : Nat) : List Char :=
  let digits := Text.paddedDigits (scale + 1) coefficient
  let whole := digits.take (digits.length - scale)
  if scale = 0 then whole else whole ++ '.' :: digits.drop (digits.length - scale)

def write (d : Decimal) : List Char :=
  if d.coefficient < 0 ∨ d.minusZero then '-' :: writeDigits d.coefficient.natAbs d.scale
  else writeDigits d.coefficient.natAbs d.scale

protected def toString (d : Decimal) : String := String.ofList d.write

instance : ToString Decimal := ⟨Decimal.toString⟩

end Decimal
end Settlement
