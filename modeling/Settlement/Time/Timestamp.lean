import Settlement.Time.Instant

/-! The written form of instants: date, `T`, time of day, as many places of the
second as needed (none, three, six or nine), and `Z`. Other offsets and some
looser spellings are read as well. -/
namespace Settlement

attribute [local instance (high)] instPowNat

namespace Instant

/-- The fewest of zero, three, six and nine places that are exact. -/
def writeFraction (nano : Nat) : List Char :=
  if nano = 0 then []
  else if nano % 1000000 = 0 then '.' :: Text.fixedDigits 10 3 (nano / 1000000)
  else if nano % 1000 = 0 then '.' :: Text.fixedDigits 10 6 (nano / 1000)
  else '.' :: Text.fixedDigits 10 9 nano

def write (t : Instant) : List Char :=
  let secondOfDay := (t.second % 86400).toNat
  let second := secondOfDay % 60 + t.nano / 1000000000
  t.day.write ++ 'T' :: Text.fixedDigits 10 2 (secondOfDay / 3600) ++
    ':' :: Text.fixedDigits 10 2 (secondOfDay / 60 % 60) ++
    ':' :: Text.fixedDigits 10 2 second ++ writeFraction (t.nano % 1000000000) ++ ['Z']

protected def toString (t : Instant) : String := String.ofList t.write

def readFraction : List Char → Option (Nat × List Char)
  | '.' :: cs =>
    let digits := (cs.take 9).takeWhile Text.isDigit
    (Text.readDecimal? digits).map fun n =>
      (n * 10 ^ (9 - digits.length), (cs.drop digits.length).dropWhile Text.isDigit)
  | cs => some (0, cs)

/-- A time of day in seconds and nanoseconds; second 60 is a leap second behind second 59. -/
def readClock (cs : List Char) : Option (Nat × Nat × List Char) := do
  let (hour, cs) ← Day.readField 2 cs
  let cs ← Day.readMark ':' cs
  let (minute, cs) ← Day.readField 2 cs
  let cs ← Day.readMark ':' cs
  let (second, cs) ← Day.readField 2 cs
  let (nano, cs) ← readFraction cs
  if hour < 24 ∧ minute < 60 ∧ second ≤ 60 then
    let start := hour * 3600 + minute * 60
    if second = 60 then return (start + 59, nano + 1000000000, cs)
    else return (start + second, nano, cs)
  else none

/-- The seconds by which local time is ahead: `Z`, `UTC`, or a sign, hours and minutes. -/
def readOffset (cs : List Char) : Option (Int × List Char) :=
  let signed (sign : Int) (cs : List Char) : Option (Int × List Char) :=
    match cs with
    | h₁ :: h₂ :: cs => do
      let h₁ ← Text.digitValue? h₁
      let h₂ ← Text.digitValue? h₂
      match cs.dropWhile (fun c => c == ':' || Text.isBlank c) with
      | m₁ :: m₂ :: cs => do
        let m₁ ← Text.digitValue? m₁
        let m₂ ← Text.digitValue? m₂
        let seconds := (10 * h₁ + h₂) * 3600 + (10 * m₁ + m₂) * 60
        if m₁ < 6 ∧ seconds < 86400 then return (sign * seconds, cs) else none
      | _ => none
    | _ => none
  match cs with
  | 'Z' :: cs | 'z' :: cs => some (0, cs)
  | '+' :: cs => signed 1 cs
  | '-' :: cs | '−' :: cs => signed (-1) cs
  | u :: t :: c :: cs =>
    if (u = 'U' ∨ u = 'u') ∧ (t = 'T' ∨ t = 't') ∧ (c = 'C' ∨ c = 'c') then some (0, cs) else none
  | _ => none

/-- Date and time are parted by `T` or a blank; white space may stand between their parts. -/
def ofString? (s : String) : Option Instant := do
  let (civil, cs) ← Day.read s.toList
  let day ← Day.ofCivil? civil
  match cs with
  | 'T' :: cs | 't' :: cs | ' ' :: cs => do
    let (second, nano, cs) ← readClock cs
    let (offset, cs) ← readOffset (Text.trimStart cs)
    if (Text.trimStart cs).isEmpty then ofParts? (day.number * 86400 + second - offset) nano else none
  | _ => none

end Instant
end Settlement
