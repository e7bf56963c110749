import Settlement.Binary64
import Settlement.Json.Basic
import Settlement.Text.Digits

/-! Numbers of TOML. Whole numbers have 64 bits and may be written to the bases
two, eight and sixteen; other numbers have double precision. Single underscores
may stand between digits. -/
namespace Settlement

attribute [local instance (high)] instPowNat

namespace Toml

def spanGroup (isDigit : Char → Bool) : List Char → List Char × List Char
  | [] => ([], [])
  | c :: rest =>
    if isDigit c then
      let r := spanGroup isDigit rest
      (c :: r.1, r.2)
    else if c = '_' ∧ (rest.head?.any isDigit) then spanGroup isDigit rest
    else ([], c :: rest)

def readGroup (isDigit : Char → Bool) : List Char → Option (List Char × List Char)
  | [] => none
  | c :: rest => if isDigit c then some (spanGroup isDigit (c :: rest)) else none

def readSign : List Char → Bool × List Char
  | '-' :: rest => (true, rest)
  | '+' :: rest => (false, rest)
  | cs => (false, cs)

/-- The digits of a whole number, of which a leading zero must be the only one. -/
def readWhole : List Char → Option (List Char × List Char)
  | '0' :: rest => some (['0'], rest)
  | cs => readGroup Text.isDigit cs

def readFraction : List Char → Option (List Char × List Char)
  | '.' :: rest => readGroup Text.isDigit rest
  | cs => some ([], cs)

def readExponent : List Char → Option (Bool × List Char × List Char)
  | c :: cs =>
    if c = 'e' ∨ c = 'E' then
      let (negative, cs) := readSign cs
      (readGroup Text.isDigit cs).map fun r => (negative, r.1, r.2)
    else some (false, [], c :: cs)
  | [] => some (false, [], [])

def value (digit? : Char → Option Nat) (base : Nat) (digits : List Char) : Nat :=
  (Text.readDigits digit? base digits).getD 0

def signed (negative : Bool) (n : Nat) : Int := if negative then -(n : Int) else n

def whole? (n : Int) : Option Json := if -2 ^ (63 : Nat) ≤ n ∧ n < 2 ^ (63 : Nat) then some (.int n) else none

/-- A number in double precision by its shortest numeral. Only downwards may it be infinite. -/
def real? (negative : Bool) (digits : Nat) (power : Int) : Option Json :=
  match Binary64.nearest? digits power with
  | some x => some (.real (String.ofList ((if negative then ['-'] else []) ++ x.write)))
  | none => if negative then some (.real "-inf") else none

def readDecimal (cs : List Char) : Option (Json × List Char) := do
  let (negative, cs) := readSign cs
  let (whole, rest) ← readWhole cs
  let (fraction, rest) ← readFraction rest
  let (negativeExponent, exponent, rest) ← readExponent rest
  if fraction.isEmpty ∧ exponent.isEmpty then
    return (← whole? (signed negative (value Text.digitValue? 10 whole)), rest)
  let power := signed negativeExponent (value Text.digitValue? 10 exponent)
  let digits := value Text.digitValue? 10 (whole ++ fraction)
  return (← real? negative digits (power - fraction.length), rest)

def readBased (base : Nat) (cs : List Char) : Option (Json × List Char) := do
  let digit? (c : Char) : Option Nat := (Text.hexValue? c).filter (· < base)
  let (digits, rest) ← readGroup (fun c => (digit? c).isSome) cs
  return (← whole? (value digit? base digits), rest)

def readSpecial (cs : List Char) : Option (Json × List Char) :=
  let (negative, cs) := readSign cs
  match cs with
  | 'i' :: 'n' :: 'f' :: rest => some (.real (if negative then "-inf" else "inf"), rest)
  | 'n' :: 'a' :: 'n' :: rest => some (.real "NaN", rest)
  | _ => none

def readNumber : List Char → Option (Json × List Char)
  | '0' :: 'x' :: rest => readBased 16 rest
  | '0' :: 'o' :: rest => readBased 8 rest
  | '0' :: 'b' :: rest => readBased 2 rest
  | cs => (readSpecial cs).or (readDecimal cs)

end Toml
end Settlement
