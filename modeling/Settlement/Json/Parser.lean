import Settlement.Binary64
import Settlement.Json.Basic
import Settlement.Text.Digits

/-! Reading JSON texts. Of two members with one key the later counts. Lists and
objects may be nested 127 deep; a number that leaves the range of double
precision while it is formed is refused, and so is half of a surrogate pair. -/
namespace Settlement

attribute [local instance (high)] instPowNat

namespace Json

def isSpace (c : Char) : Bool := c == ' ' || c == '\t' || c == '\n' || c == '\r'

def skipSpace (cs : List Char) : List Char := cs.dropWhile isSpace

inductive StringState
  | plain
  | escape
  | unit (digits value : Nat) (high : Option Nat)
  | pair (high : Nat)
  | pairEscape (high : Nat)

def escaped? : Char → Option Char
  | '"' => some '"'
  | '\\' => some '\\'
  | '/' => some '/'
  | 'b' => some '\x08'
  | 'f' => some '\x0c'
  | 'n' => some '\n'
  | 'r' => some '\r'
  | 't' => some '\t'
  | _ => none

/-- What follows a complete code unit: a character, or the wait for a low surrogate. -/
def endUnit (value : Nat) : Option Nat → Option (Option Char × StringState)
  | none =>
    if 0xD800 ≤ value ∧ value < 0xDC00 then some (none, .pair value)
    else if 0xDC00 ≤ value ∧ value < 0xE000 then none
    else some (some (Char.ofNat value), .plain)
  | some high =>
    if 0xDC00 ≤ value ∧ value < 0xE000 then
      some (some (Char.ofNat (0x10000 + (high - 0xD800) * 0x400 + (value - 0xDC00))), .plain)
    else none

def readString : StringState → List Char → Option (List Char × List Char)
  | _, [] => none
  | .plain, c :: rest =>
    if c = '"' then some ([], rest)
    else if c = '\\' then readString .escape rest
    else if c.toNat < 0x20 then none
    else (readString .plain rest).map fun r => (c :: r.1, r.2)
  | .escape, c :: rest =>
    if c = 'u' then readString (.unit 0 0 none) rest
    else (escaped? c).bind fun e => (readString .plain rest).map fun r => (e :: r.1, r.2)
  | .unit digits value high, c :: rest =>
    (Text.hexValue? c).bind fun d =>
      if digits < 3 then readString (.unit (digits + 1) (16 * value + d) high) rest
      else (endUnit (16 * value + d) high).bind fun e =>
        (readString e.2 rest).map fun r => (e.1.toList ++ r.1, r.2)
  | .pair high, c :: rest => if c = '\\' then readString (.pairEscape high) rest else none
  | .pairEscape high, c :: rest => if c = 'u' then readString (.unit 0 0 (some high)) rest else none

def spanDigits (cs : List Char) : List Char × List Char := cs.span Text.isDigit

def readWhole (cs : List Char) : Option (List Char × List Char) :=
  match spanDigits cs with
  | ([], _) => none
  | (['0'], rest) => some (['0'], rest)
  | ('0' :: _, _) => none
  | (digits, rest) => some (digits, rest)

def readFraction : List Char → Option (List Char × List Char)
  | '.' :: cs =>
    match spanDigits cs with
    | ([], _) => none
    | (digits, rest) => some (digits, rest)
  | cs => some ([], cs)

def readExponent : List Char → Option (Bool × List Char × List Char)
  | c :: cs =>
    if c = 'e' ∨ c = 'E' then
      let (negative, cs) := match cs with
        | '-' :: cs => (true, cs)
        | '+' :: cs => (false, cs)
        | cs => (false, cs)
      match spanDigits cs with
      | ([], _) => none
      | (digits, rest) => some (negative, digits, rest)
    else some (false, [], c :: cs)
  | [] => some (false, [], [])

def digitsValue (cs : List Char) : Nat := (Text.readDigits Text.digitValue? 10 cs).getD 0

/-- Appends digits to a number while it stays below `2 ^ 64`: the number, and how many digits at
the end are left out. -/
def appendDigits (n : Nat) : List Char → Nat × Nat
  | [] => (n, 0)
  | c :: rest =>
    let next := 10 * n + (Text.digitValue? c).getD 0
    if next < 2 ^ (64 : Nat) then appendDigits next rest else (n, rest.length + 1)

/-- Whether the product of `n` and `10 ^ power` in double precision, each factor rounded before,
stays in range. Only a power that raises the number can lead out of it. -/
def isInRange (n : Nat) (power : Int) : Bool :=
  n == 0 || power < 0 || power ≤ 308 &&
    ((Binary64.nearest? n 0).bind fun x => (Binary64.nearest? 1 power).bind x.mul?).isSome

/-- A number. Whole ones that fit 64 bits, with or without sign, are kept as such. Of others the
first digits, as far as 64 bits hold them, tell whether the number is in range. -/
def readNumber (negative : Bool) (cs : List Char) : Option (Json × List Char) := do
  let (whole, rest₁) ← readWhole cs
  let (fraction, rest₂) ← readFraction rest₁
  let (negativeExponent, exponent, rest) ← readExponent rest₂
  let value := digitsValue whole
  if fraction.isEmpty ∧ exponent.isEmpty ∧
      (if negative then 0 < value ∧ value ≤ 2 ^ (63 : Nat) else value < 2 ^ (64 : Nat)) then
    return (int (if negative then -(value : Int) else value), rest)
  let power : Int := if negativeExponent then -(digitsValue exponent : Int) else digitsValue exponent
  let (n, dropped) := appendDigits 0 whole
  let (n, unread) := appendDigits n fraction
  guard (isInRange n (power + dropped - (fraction.length - unread : Nat)))
  let sign := if negative then ['-'] else []
  return (real (String.ofList (sign ++ cs.take (cs.length - rest.length))), rest)

def expect (word : List Char) (cs : List Char) : Option (List Char) :=
  if word.isPrefixOf cs then some (cs.drop word.length) else none

mutual

/-- A value, and the rest of the text. Every call passes on less `fuel`; `depth` bounds nesting. -/
def readValue : (fuel depth : Nat) → List Char → Option (Json × List Char)
  | 0, _, _ => none
  | fuel + 1, depth, cs =>
    match skipSpace cs with
    | '[' :: rest =>
      if depth = 0 then none
      else match skipSpace rest with
        | ']' :: rest => some (arr [], rest)
        | rest => (readItems fuel (depth - 1) rest).map fun r => (arr r.1, r.2)
    | '\x7b' :: rest =>
      if depth = 0 then none
      else match skipSpace rest with
        | '\x7d' :: rest => some (obj [], rest)
        | rest => (readMembers fuel (depth - 1) [] rest).map fun r => (obj r.1, r.2)
    | '"' :: rest => (readString .plain rest).map fun r => (str (String.ofList r.1), r.2)
    | 't' :: rest => (expect ['r', 'u', 'e'] rest).map fun rest => (bool true, rest)
    | 'f' :: rest => (expect ['a', 'l', 's', 'e'] rest).map fun rest => (bool false, rest)
    | 'n' :: rest => (expect ['u', 'l', 'l'] rest).map fun rest => (null, rest)
    | '-' :: rest => readNumber true rest
    | rest => readNumber false rest

def readItems : (fuel depth : Nat) → List Char → Option (List Json × List Char)
  | 0, _, _ => none
  | fuel + 1, depth, cs =>
    match readValue fuel depth cs with
    | none => none
    | some (item, rest) =>
      match skipSpace rest with
      | ',' :: rest => (readItems fuel depth rest).map fun r => (item :: r.1, r.2)
      | ']' :: rest => some ([item], rest)
      | _ => none

def readMembers : (fuel depth : Nat) → List (String × Json) → List Char →
    Option (List (String × Json) × List Char)
  | 0, _, _, _ => none
  | fuel + 1, depth, members, cs =>
    match skipSpace cs with
    | '"' :: rest =>
      match readString .plain rest with
      | none => none
      | some (key, rest) =>
        match skipSpace rest with
        | ':' :: rest =>
          match readValue fuel depth rest with
          | none => none
          | some (value, rest) =>
            let members := Table.put (String.ofList key) value members
            match skipSpace rest with
            | ',' :: rest => readMembers fuel depth members rest
            | '\x7d' :: rest => some (members, rest)
            | _ => none
        | _ => none
    | _ => none

end

def parse? (s : String) : Option Json :=
  let cs := s.toList
  match readValue (2 * cs.length + 2) 127 cs with
  | some (value, rest) => if (skipSpace rest).isEmpty then some value else none
  | none => none

end Json
end Settlement
