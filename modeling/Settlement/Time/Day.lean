import Settlement.Text.Blank
import Settlement.Text.Digits

/-! Calendar days of the Gregorian calendar, counted from 1970-01-01, between the
years -262143 and 262142. -/
namespace Settlement

structure Day where
  number : Int
  first_le : -96465292 ≤ number
  le_last : number ≤ 95026236
  deriving DecidableEq

namespace Day

structure Civil where
  year : Int
  month : Nat
  day : Nat
  deriving DecidableEq

/-- Years are counted from March, so that a leap day is the last day of its year; 400 of them have
146097 days. -/
def civil (d : Day) : Civil :=
  let shifted := d.number + 719468
  let era := shifted / 146097
  let dayOfEra := shifted % 146097
  let yearOfEra := (dayOfEra - dayOfEra / 1460 + dayOfEra / 36524 - dayOfEra / 146096) / 365
  let dayOfYear := dayOfEra - (365 * yearOfEra + yearOfEra / 4 - yearOfEra / 100)
  let month := (5 * dayOfYear + 2) / 153
  let day := dayOfYear - (153 * month + 2) / 5 + 1
  if month < 10 then ⟨yearOfEra + era * 400, (month + 3).toNat, day.toNat⟩
  else ⟨yearOfEra + era * 400 + 1, (month - 9).toNat, day.toNat⟩

def numberOf (c : Civil) : Int :=
  let year := if c.month ≤ 2 then c.year - 1 else c.year
  let month : Int := if c.month ≤ 2 then c.month + 9 else c.month - 3
  let era := year / 400
  let yearOfEra := year % 400
  let dayOfYear := (153 * month + 2) / 5 + c.day - 1
  let dayOfEra := yearOfEra * 365 + yearOfEra / 4 - yearOfEra / 100 + dayOfYear
  era * 146097 + dayOfEra - 719468

theorem numberOf_civil (d : Day) : numberOf d.civil = d.number := by
  simp only [civil]
  generalize hn : d.number + 719468 = n
  generalize he : n / 146097 = era
  generalize hd : n % 146097 = doe
  have hdoe : 0 ≤ doe ∧ doe < 146097 := by omega
  generalize hy : (doe - doe / 1460 + doe / 36524 - doe / 146096) / 365 = yoe
  have hyoe : 0 ≤ yoe ∧ yoe < 400 := by omega
  generalize hdy : doe - (365 * yoe + yoe / 4 - yoe / 100) = doy
  have hdoy : 0 ≤ doy ∧ doy < 366 := by
    have h₁ : doe / 36524 = 0 ∨ doe / 36524 = 1 ∨ doe / 36524 = 2 ∨ doe / 36524 = 3 ∨ doe / 36524 = 4 := by
      omega
    have h₂ : doe / 146096 = 0 ∨ doe / 146096 = 1 := by omega
    have h₃ : yoe / 100 = 0 ∨ yoe / 100 = 1 ∨ yoe / 100 = 2 ∨ yoe / 100 = 3 := by omega
    rcases h₁ with h₁ | h₁ | h₁ | h₁ | h₁ <;> rcases h₂ with h₂ | h₂ <;>
      rcases h₃ with h₃ | h₃ | h₃ | h₃ <;> rw [h₁, h₂] at hy <;> rw [h₃] at hdy <;> omega
  generalize hm : (5 * doy + 2) / 153 = mp
  have hmp : 0 ≤ mp ∧ mp < 12 := by omega
  have hday : 0 ≤ doy - (153 * mp + 2) / 5 + 1 := by omega
  have hera : (yoe + era * 400) / 400 = era ∧ (yoe + era * 400) % 400 = yoe := by omega
  clear hy
  split
  · next h =>
    have h3 : ¬ (mp + 3).toNat ≤ 2 := by omega
    have h4 : ((mp + 3).toNat : Int) - 3 = mp := by omega
    simp only [numberOf, h3, if_false, h4, hera.1, hera.2, Int.toNat_of_nonneg hday]
    omega
  · next h =>
    have h3 : (mp - 9).toNat ≤ 2 := by omega
    have h4 : ((mp - 9).toNat : Int) + 9 = mp := by omega
    have h5 : yoe + era * 400 + 1 - 1 = yoe + era * 400 := by omega
    simp only [numberOf, h3, if_true, h4, h5, hera.1, hera.2, Int.toNat_of_nonneg hday]
    omega

def year (d : Day) : Int := d.civil.year

def month (d : Day) : Nat := d.civil.month

def SameMonth (a b : Day) : Prop := a.year = b.year ∧ a.month = b.month

instance (a b : Day) : Decidable (SameMonth a b) := inferInstanceAs (Decidable (_ ∧ _))

instance : LE Day := ⟨fun a b => a.number ≤ b.number⟩
instance : LT Day := ⟨fun a b => a.number < b.number⟩
instance (a b : Day) : Decidable (a ≤ b) := inferInstanceAs (Decidable (a.number ≤ b.number))
instance (a b : Day) : Decidable (a < b) := inferInstanceAs (Decidable (a.number < b.number))

def ofNumber? (n : Int) : Option Day :=
  if h : -96465292 ≤ n ∧ n ≤ 95026236 then some ⟨n, h.1, h.2⟩ else none

def ofCivil? (c : Civil) : Option Day :=
  (ofNumber? (numberOf c)).filter (·.civil = c)

@[simp] theorem ofCivil?_civil (d : Day) : ofCivil? d.civil = some d := by
  have h := And.intro d.first_le d.le_last
  simp [ofCivil?, numberOf_civil, ofNumber?, h]

/-- Four digits; a year outside 0 to 9999 has a sign. -/
def writeYear (y : Int) : List Char :=
  if 0 ≤ y ∧ y ≤ 9999 then Text.fixedDigits 10 4 y.toNat
  else (if y < 0 then '-' else '+') :: Text.paddedDigits 4 y.natAbs

def write (d : Day) : List Char :=
  let c := d.civil
  writeYear c.year ++ '-' :: Text.fixedDigits 10 2 c.month ++ '-' :: Text.fixedDigits 10 2 c.day

protected def toString (d : Day) : String := String.ofList d.write

instance : ToString Day := ⟨Day.toString⟩

def readField (width : Nat) (cs : List Char) : Option (Nat × List Char) :=
  let cs := Text.trimStart cs
  let digits := (cs.take width).takeWhile Text.isDigit
  (Text.readDecimal? digits).map fun n => (n, cs.drop digits.length)

/-- A year: up to four digits, or a sign and any number of them. -/
def readYear (cs : List Char) : Option (Int × List Char) :=
  let signed (negative : Bool) (cs : List Char) : Option (Int × List Char) :=
    let digits := cs.takeWhile Text.isDigit
    (Text.readDecimal? digits).map fun n => (if negative then -(n : Int) else n, cs.drop digits.length)
  match Text.trimStart cs with
  | '-' :: cs => signed true cs
  | '+' :: cs => signed false cs
  | cs => (readField 4 cs).map fun r => ((r.1 : Int), r.2)

def readMark (mark : Char) (cs : List Char) : Option (List Char) :=
  match Text.trimStart cs with
  | c :: rest => if c = mark then some rest else none
  | [] => none

def read (cs : List Char) : Option (Civil × List Char) := do
  let (year, cs) ← readYear cs
  let cs ← readMark '-' cs
  let (month, cs) ← readField 2 cs
  let cs ← readMark '-' cs
  let (day, cs) ← readField 2 cs
  return (⟨year, month, day⟩, cs)

/-- The day that a text spells; white space may stand around its parts and behind it. -/
def ofString? (s : String) : Option Day := do
  let (c, rest) ← read s.toList
  if (Text.trimStart rest).isEmpty then ofCivil? c else none

end Day
end Settlement
