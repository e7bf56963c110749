import Settlement.Text.Digits
import Settlement.Time.Day

/-! Dates and times of TOML: a date, a time of day, or both with or without an
offset. No setting is a time, so only their extent in the text is found. -/
namespace Settlement
namespace Toml

def readPair (bound : Nat) : List Char → Option (Nat × List Char)
  | a :: b :: rest =>
    match Text.digitValue? a, Text.digitValue? b with
    | some a, some b => if 10 * a + b < bound then some (10 * a + b, rest) else none
    | _, _ => none
  | _ => none

def skipMark (mark : Char) : List Char → Option (List Char)
  | c :: rest => if c = mark then some rest else none
  | [] => none

def skipDate (cs : List Char) : Option (List Char) := do
  let (century, cs) ← readPair 100 cs
  let (year, cs) ← readPair 100 cs
  let (month, cs) ← readPair 100 (← skipMark '-' cs)
  let (day, cs) ← readPair 100 (← skipMark '-' cs)
  if (Day.ofCivil? ⟨100 * century + year, month, day⟩).isSome then some cs else none

def skipPlaces : List Char → List Char
  | '.' :: c :: rest => if Text.isDigit c then rest.dropWhile Text.isDigit else '.' :: c :: rest
  | cs => cs

/-- The text behind a time of day; second 60 is a leap second. -/
def skipTime (cs : List Char) : Option (List Char) := do
  let (_, cs) ← readPair 24 cs
  let (_, cs) ← readPair 60 (← skipMark ':' cs)
  let (_, cs) ← readPair 61 (← skipMark ':' cs)
  return skipPlaces cs

def skipOffset : List Char → Option (List Char)
  | 'Z' :: rest | 'z' :: rest => some rest
  | '+' :: rest | '-' :: rest => do
    let (_, cs) ← readPair 24 rest
    let (_, cs) ← readPair 60 (← skipMark ':' cs)
    return cs
  | cs => some cs

def skipDateTime (cs : List Char) : Option (List Char) := do
  let cs ← skipDate cs
  match cs with
  | 'T' :: rest | 't' :: rest | ' ' :: rest =>
    match skipTime rest with
    | some rest => skipOffset rest
    | none => some cs
  | _ => some cs

def skipMoment (cs : List Char) : Option (List Char) := (skipDateTime cs).or (skipTime cs)

end Toml
end Settlement
