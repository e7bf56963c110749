import Settlement.Proofs.Text.Digits
import Settlement.Proofs.Time.Month
import Settlement.Time.Timestamp

/-! Days and instants are read back from their written form, of any year and to the nanosecond. -/
namespace Settlement

attribute [local instance (high)] instPowNat
open Text

variable {n width : Nat}

theorem Text.isBlank_digitChar : ∀ d < 10, isBlank (digitChar d) = false := by decide

theorem Text.trimStart_fixedDigits (positive : 0 < width) (n : Nat) (rest : List Char) :
    trimStart (fixedDigits 10 width n ++ rest) = fixedDigits 10 width n ++ rest := by
  obtain ⟨width, rfl⟩ := Nat.exists_eq_add_one.mpr positive
  rw [fixedDigits_succ, List.cons_append, trimStart_cons, isBlank_digitChar _ (Nat.mod_lt _ (by decide)),
    if_neg (by decide)]

namespace Day

theorem readField_fixedDigits (positive : 0 < width) (h : n < 10 ^ width) (rest : List Char) :
    readField width (fixedDigits 10 width n ++ rest) = some (n, rest) := by
  have hdigits : (fixedDigits 10 width n).takeWhile isDigit = fixedDigits 10 width n := by
    simpa using takeWhile_fixedDigits width n []
  simp only [readField, trimStart_fixedDigits positive, List.take_left' (fixedDigits_length 10 width n), hdigits,
    readDecimal?_fixedDigits positive h, fixedDigits_length, List.drop_left' (fixedDigits_length 10 width n)]
  rfl

theorem readMark_cons {mark : Char} (h : isBlank mark = false) (rest : List Char) :
    readMark mark (mark :: rest) = some rest := by
  simp [readMark, trimStart_cons, h]

theorem readYear_digit (d : Nat) (h : d < 10) (cs : List Char) :
    readYear (digitChar d :: cs) = (readField 4 (digitChar d :: cs)).map fun r => ((r.1 : Int), r.2) := by
  have hnosign : digitChar d ≠ '-' ∧ digitChar d ≠ '+' := by
    revert d
    decide
  simp only [readYear, trimStart_cons, isBlank_digitChar d h]
  split
  · next heq => exact absurd (List.cons.inj heq).1 hnosign.1
  · next heq => exact absurd (List.cons.inj heq).1 hnosign.2
  · rfl

theorem readYear_signed (sign : Char) (h : sign = '-' ∨ sign = '+') (cs : List Char) :
    readYear (sign :: cs) = (readDecimal? (cs.takeWhile isDigit)).map fun n : Nat =>
      (if sign = '-' then -(n : Int) else (n : Int), cs.drop (cs.takeWhile isDigit).length) := by
  have hblank : isBlank '-' = false ∧ isBlank '+' = false := by decide
  cases hdigits : readDecimal? (cs.takeWhile isDigit) <;>
    rcases h with rfl | rfl <;> simp [readYear, trimStart_cons, hblank, hdigits]

theorem readYear_writeYear (y : Int) (rest : List Char) :
    readYear (writeYear y ++ '-' :: rest) = some (y, '-' :: rest) := by
  unfold writeYear
  split
  · next h =>
    rw [fixedDigits_succ, List.cons_append, readYear_digit _ (Nat.mod_lt _ (by decide)), ← List.cons_append,
      ← fixedDigits_succ, readField_fixedDigits (by decide) (by omega), Option.map_some, Int.toNat_of_nonneg h.1]
  · next h =>
    have hread : readDecimal? (paddedDigits 4 y.natAbs) = some y.natAbs :=
      readDecimal?_fixedDigits (by omega) (lt_pow_max_digitCount 4 y.natAbs)
    have hdigits : (paddedDigits 4 y.natAbs ++ '-' :: rest).takeWhile isDigit = paddedDigits 4 y.natAbs := by
      rw [paddedDigits, takeWhile_fixedDigits, List.takeWhile_cons_of_neg (by decide), List.append_nil]
    rw [List.cons_append, readYear_signed _ (by split <;> simp), hdigits, hread, List.drop_left' rfl]
    have hvalue : (if (if y < 0 then '-' else '+') = '-' then -(y.natAbs : Int) else y.natAbs) = y := by
      by_cases hy : y < 0
      · rw [if_pos hy, if_pos rfl]
        omega
      · rw [if_neg hy, if_neg (by decide)]
        omega
    rw [Option.map_some, hvalue]

theorem civil_lt (d : Day) : d.civil.month < 10 ^ (2 : Nat) ∧ d.civil.day < 10 ^ (2 : Nat) := by
  simp only [civil]
  generalize hn : (d.number + 719468) % 146097 = day
  generalize hy : (day - day / 1460 + day / 36524 - day / 146096) / 365 = year
  generalize hr : day - (365 * year + year / 4 - year / 100) = rest
  have hyear : YearOfEra day year rest := yearOfEra (by omega) hy hr
  have hlow := hyear.dayOfYear_nonneg
  have hhigh := hyear.dayOfYear_lt
  clear hy hr hn hyear
  split <;> exact ⟨by simp only; omega, by simp only; omega⟩

theorem read_write (d : Day) (rest : List Char) : read (d.write ++ rest) = some (d.civil, rest) := by
  have hmark : isBlank '-' = false := by decide
  simp only [write, List.append_assoc, List.cons_append]
  simp only [read, readYear_writeYear, readMark_cons hmark, readField_fixedDigits (by decide) d.civil_lt.1,
    readField_fixedDigits (by decide) d.civil_lt.2, Option.bind_eq_bind, Option.bind_some]
  rfl

theorem ofString?_toString (d : Day) : ofString? d.toString = some d := by
  have hread := d.read_write []
  rw [List.append_nil] at hread
  rw [Day.toString, ofString?, String.toList_ofList, hread]
  exact d.ofCivil?_civil

end Day

namespace Instant

theorem readFraction_digits (positive : 0 < width) (short : width ≤ 9) (h : n < 10 ^ width) (rest : List Char) :
    readFraction ('.' :: fixedDigits 10 width n ++ 'Z' :: rest) = some (n * 10 ^ (9 - width), 'Z' :: rest) := by
  have hbehind : (('Z' :: rest).take (9 - width)).takeWhile isDigit = [] := by
    cases 9 - width <;> rfl
  have htake : (fixedDigits 10 width n ++ 'Z' :: rest).take 9 =
      fixedDigits 10 width n ++ ('Z' :: rest).take (9 - width) := by
    rw [List.take_append, fixedDigits_length, List.take_of_length_le (by rwa [fixedDigits_length])]
  simp only [List.cons_append, readFraction, htake, takeWhile_fixedDigits, hbehind, List.append_nil,
    readDecimal?_fixedDigits positive h, fixedDigits_length, List.drop_left' (fixedDigits_length 10 width n)]
  rfl

theorem readFraction_writeFraction (h : n < 1000000000) (rest : List Char) :
    readFraction (writeFraction n ++ 'Z' :: rest) = some (n, 'Z' :: rest) := by
  have hmillis : n % 1000000 = 0 → n / 1000000 * 10 ^ (9 - 3 : Nat) = n := by omega
  have hmicros : n % 1000 = 0 → n / 1000 * 10 ^ (9 - 6 : Nat) = n := by omega
  unfold writeFraction
  split
  · next hzero =>
    subst hzero
    rfl
  split
  · next hzeros => rw [readFraction_digits (by decide) (by decide) (by omega), hmillis hzeros]
  split
  · next hzeros => rw [readFraction_digits (by decide) (by decide) (by omega), hmicros hzeros]
  · rw [readFraction_digits (by decide) (by decide) h, Nat.sub_self, Nat.pow_zero, Nat.mul_one]

theorem readClock_write (t : Instant) :
    let secondOfDay := (t.second % 86400).toNat
    readClock (fixedDigits 10 2 (secondOfDay / 3600) ++ ':' :: (fixedDigits 10 2 (secondOfDay / 60 % 60) ++
      ':' :: (fixedDigits 10 2 (secondOfDay % 60 + t.nano / 1000000000) ++
        (writeFraction (t.nano % 1000000000) ++ ['Z'])))) = some (secondOfDay, t.nano, ['Z']) := by
  intro secondOfDay
  have hmark : isBlank ':' = false := by decide
  have hday : secondOfDay < 86400 := by omega
  have hnano : t.nano < 1000000000 ∨ t.nano < 2000000000 ∧ secondOfDay % 60 = 59 := by
    have := t.nano_lt
    omega
  clear_value secondOfDay
  have hhour : secondOfDay / 3600 < 24 := by omega
  have hminute : secondOfDay / 60 % 60 < 60 := by omega
  have hsecond : secondOfDay % 60 + t.nano / 1000000000 ≤ 60 := by omega
  have hstart : secondOfDay / 3600 * 3600 + secondOfDay / 60 % 60 * 60 + secondOfDay % 60 = secondOfDay := by omega
  simp only [readClock, Day.readField_fixedDigits (by decide) (show secondOfDay / 3600 < 10 ^ (2 : Nat) by omega),
    Day.readField_fixedDigits (by decide) (show secondOfDay / 60 % 60 < 10 ^ (2 : Nat) by omega),
    Day.readField_fixedDigits (by decide) (show secondOfDay % 60 + t.nano / 1000000000 < 10 ^ (2 : Nat) by omega),
    Day.readMark_cons hmark, readFraction_writeFraction (Nat.mod_lt t.nano (by decide)), Option.bind_eq_bind,
    Option.bind_some, hhour, hminute, hsecond]
  rw [if_pos ⟨trivial, trivial, trivial⟩]
  split
  · have hvalue : secondOfDay / 3600 * 3600 + secondOfDay / 60 % 60 * 60 + 59 = secondOfDay := by omega
    have hleap : t.nano % 1000000000 + 1000000000 = t.nano := by omega
    rw [hvalue, hleap]
    rfl
  · have hwhole : t.nano / 1000000000 = 0 ∧ t.nano % 1000000000 = t.nano := by omega
    rw [hwhole.1, hwhole.2, Nat.add_zero, hstart]
    rfl

theorem ofString?_toString (t : Instant) : ofString? t.toString = some t := by
  have hsecond : t.day.number * 86400 + ((t.second % 86400).toNat : Int) - 0 = t.second := by
    show t.second / 86400 * 86400 + _ - 0 = _
    omega
  have hoffset : readOffset (trimStart ['Z']) = some (0, []) := rfl
  rw [Instant.toString, ofString?, String.toList_ofList, write]
  simp only [List.append_assoc, List.cons_append, Day.read_write, Day.ofCivil?_civil, readClock_write,
    hoffset, Option.bind_eq_bind, Option.bind_some, hsecond]
  exact t.ofParts?_self

end Instant
end Settlement
