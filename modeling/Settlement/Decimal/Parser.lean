import Settlement.Decimal.Rounding
import Settlement.Text.Digits

/-! Reading decimals. A plain number is an optional sign and ASCII digits with
at most one point; underscores may stand after the first digit. Places that do
not fit are rounded away, a whole part that does not fit is refused. A number
that is not plain may still be scientific: a plain one, `e` or `E`, and an
exponent between -28 and 28. A plain zero has no sign, but a negative number
that the exponent makes vanish becomes a zero with a minus sign. -/
namespace Settlement

attribute [local instance (high)] instPowNat

namespace Decimal

abbrev Magnitude := Nat × Nat

/-- Rounds half up on the first digit that does not fit; behind it only digits and underscores
may follow. -/
def roundTail (coefficient scale digit : Nat) (rest : List Char) : Option Magnitude :=
  if rest.all (fun c => Text.isDigit c || c == '_') then
    if digit < 5 then some (coefficient, scale)
    else if coefficient + 1 < 2 ^ (96 : Nat) then some (coefficient + 1, scale)
    else if scale = 0 then none
    else some ((coefficient + 1 + 4) / 10, scale - 1)
  else none

/-- Below a tenth of `2 ^ 64`, with 255 to spare. -/
def isShort (coefficient : Nat) : Bool := coefficient + 255 < (2 ^ (64 : Nat) - 1) / 10

/-- Reads the places behind the point. `started` tells whether a digit has been read. Right behind
the 28th place of a number whose other digits are short, an underscore counts as the digit zero. -/
def readPlaces (coefficient scale : Nat) (started : Bool) : List Char → Option Magnitude
  | [] => if started then some (coefficient, scale) else none
  | c :: rest =>
    match Text.digitValue? c with
    | some digit =>
      if scale < 28 ∧ 10 * coefficient + digit < 2 ^ (96 : Nat) then
        readPlaces (10 * coefficient + digit) (scale + 1) true rest
      else roundTail coefficient scale digit rest
    | none =>
      if c = '_' ∧ started then
        if scale = 28 ∧ isShort (coefficient / 10) then roundTail coefficient scale 0 rest
        else readPlaces coefficient scale started rest
      else none

def readWhole (coefficient : Nat) (started : Bool) : List Char → Option Magnitude
  | [] => if started then some (coefficient, 0) else none
  | c :: rest =>
    match Text.digitValue? c with
    | some digit =>
      if 10 * coefficient + digit < 2 ^ (96 : Nat) then readWhole (10 * coefficient + digit) true rest
      else none
    | none =>
      if c = '.' then readPlaces coefficient 0 started rest
      else if c = '_' ∧ started then readWhole coefficient started rest
      else none

def ofMagnitude? (negative : Bool) (m : Magnitude) : Option Decimal :=
  ofParts? (if negative then -(m.1 : Int) else m.1) m.2

def readPlain? : List Char → Option Decimal
  | '-' :: rest => (readWhole 0 false rest).bind (ofMagnitude? true)
  | '+' :: rest => (readWhole 0 false rest).bind (ofMagnitude? false)
  | cs => (readWhole 0 false cs).bind (ofMagnitude? false)

/-- Moves the point `exponent` places to the left, rounding places past the 28th away. The sign
remains, also of a number that vanishes. -/
def shiftLeft? (d : Decimal) (exponent : Nat) : Option Decimal :=
  let rounded := d.round .halfAwayFromZero (28 - exponent)
  (ofParts? rounded.coefficient (rounded.scale + exponent)).map (markZero (d.coefficient < 0))

def shiftRight? (d : Decimal) (exponent : Nat) : Option Decimal :=
  if exponent ≤ d.scale then ofParts? d.coefficient (d.scale - exponent)
  else ofParts? (d.coefficient * 10 ^ (exponent - d.scale)) 0

def shiftBy? (d : Decimal) : List Char → Option Decimal
  | '-' :: digits => (Text.readBelow? 29 digits).bind d.shiftLeft?
  | digits => (Text.readBelow? 29 digits).bind d.shiftRight?

def isExponentMark (c : Char) : Bool := c == 'e' || c == 'E'

/-- Reads a number with an exponent; the first `e` ends the number in front of it. -/
def readScientific? (cs : List Char) : Option Decimal :=
  match cs.dropWhile (!isExponentMark ·) with
  | [] => none
  | _ :: exponent => (readPlain? (cs.takeWhile (!isExponentMark ·))).bind (shiftBy? · exponent)

def read? (cs : List Char) : Option Decimal := (readPlain? cs).or (readScientific? cs)

def ofString? (s : String) : Option Decimal := read? s.toList

end Decimal
end Settlement
