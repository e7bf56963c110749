import Settlement.Time.Day

/-! Points in time, in UTC, to the nanosecond. -/
namespace Settlement

/-- `second` counts from 1970-01-01T00:00:00. A fraction of a second or more belongs to a leap
second, which follows the last second of a minute. -/
structure Instant where
  second : Int
  nano : Nat
  first_le : -96465292 * 86400 ≤ second
  le_last : second < 95026237 * 86400
  nano_lt : nano < 1000000000 ∨ nano < 2000000000 ∧ second % 60 = 59
  deriving DecidableEq

namespace Instant

def ofParts? (second : Int) (nano : Nat) : Option Instant :=
  if h : -96465292 * 86400 ≤ second ∧ second < 95026237 * 86400 ∧
      (nano < 1000000000 ∨ nano < 2000000000 ∧ second % 60 = 59) then
    some ⟨second, nano, h.1, h.2.1, h.2.2⟩
  else none

@[simp] theorem ofParts?_self (t : Instant) : ofParts? t.second t.nano = some t := by
  exact dif_pos ⟨t.first_le, t.le_last, t.nano_lt⟩

def epoch : Instant := ⟨0, 0, by decide, by decide, by decide⟩

def ofMillis? (ms : Int) : Option Instant :=
  ofParts? (ms / 1000) ((ms % 1000).toNat * 1000000)

def millis (t : Instant) : Int := t.second * 1000 + t.nano / 1000000

instance : LT Instant := ⟨fun a b => a.second < b.second ∨ a.second = b.second ∧ a.nano < b.nano⟩
instance : LE Instant := ⟨fun a b => a.second < b.second ∨ a.second = b.second ∧ a.nano ≤ b.nano⟩
instance (a b : Instant) : Decidable (a < b) := inferInstanceAs (Decidable (_ ∨ _))
instance (a b : Instant) : Decidable (a ≤ b) := inferInstanceAs (Decidable (_ ∨ _))

theorem lt_iff {a b : Instant} :
    a < b ↔ a.second < b.second ∨ a.second = b.second ∧ a.nano < b.nano := Iff.rfl

theorem le_iff {a b : Instant} :
    a ≤ b ↔ a.second < b.second ∨ a.second = b.second ∧ a.nano ≤ b.nano := Iff.rfl

theorem not_lt {a b : Instant} : ¬ a < b ↔ b ≤ a := by
  rw [lt_iff, le_iff]
  omega

def maxSpan : Int := 9223372036854775

/-- The instant so many seconds later, if the calendar reaches it. From within a leap second, later times
are counted from the second before it and earlier ones from the second after it. -/
def plusSeconds? (t : Instant) (seconds : Int) : Option Instant :=
  if seconds < -maxSpan ∨ maxSpan < seconds then none
  else if seconds = 0 then some t
  else if 0 < seconds then ofParts? (t.second + seconds) (t.nano % 1000000000)
  else ofParts? (t.second + t.nano / 1000000000 + seconds) (t.nano % 1000000000)

def day (t : Instant) : Day :=
  ⟨t.second / 86400, by have := t.first_le; omega, by have := t.le_last; omega⟩

theorem day_le_day {a b : Instant} (h : a ≤ b) : a.day ≤ b.day := by
  show a.second / 86400 ≤ b.second / 86400
  rw [le_iff] at h
  omega

end Instant
end Settlement
