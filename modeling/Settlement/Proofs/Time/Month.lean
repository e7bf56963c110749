import Settlement.Time.Day

/-! Months are stretches of days: what lies between two days of one month is in that month. -/
namespace Settlement
namespace Day

theorem le_refl (a : Day) : a ≤ a := Int.le_refl a.number

theorem le_trans {a b c : Day} (h : a ≤ b) (h' : b ≤ c) : a ≤ c := Int.le_trans h h'

theorem le_antisymm {a b : Day} (h : a ≤ b) (h' : b ≤ a) : a = b := by
  obtain ⟨n, _, _⟩ := a
  obtain ⟨m, _, _⟩ := b
  cases (Int.le_antisymm h h' : n = m)
  rfl

structure YearOfEra (day year dayOfYear : Int) : Prop where
  year_nonneg : 0 ≤ year
  year_lt : year < 400
  dayOfYear_nonneg : 0 ≤ dayOfYear
  dayOfYear_lt : dayOfYear < 366
  day_eq : day = 365 * year + year / 4 - year / 100 + dayOfYear

theorem yearOfEra {day year dayOfYear : Int} (hday : 0 ≤ day ∧ day < 146097)
    (hyear : (day - day / 1460 + day / 36524 - day / 146096) / 365 = year)
    (hrest : day - (365 * year + year / 4 - year / 100) = dayOfYear) : YearOfEra day year dayOfYear := by
  have hbounds : 0 ≤ year ∧ year < 400 := by omega
  have h₁ : day / 36524 = 0 ∨ day / 36524 = 1 ∨ day / 36524 = 2 ∨ day / 36524 = 3 ∨ day / 36524 = 4 := by omega
  have h₂ : day / 146096 = 0 ∨ day / 146096 = 1 := by omega
  have h₃ : year / 100 = 0 ∨ year / 100 = 1 ∨ year / 100 = 2 ∨ year / 100 = 3 := by omega
  have hdays : 0 ≤ dayOfYear ∧ dayOfYear < 366 := by
    rcases h₁ with h₁ | h₁ | h₁ | h₁ | h₁ <;> rcases h₂ with h₂ | h₂ <;>
      rcases h₃ with h₃ | h₃ | h₃ | h₃ <;> rw [h₁, h₂] at hyear <;> rw [h₃] at hrest <;> omega
  exact ⟨hbounds.1, hbounds.2, hdays.1, hdays.2, by omega⟩

theorem YearOfEra.year_le {day day' year year' dayOfYear dayOfYear' : Int} (h : YearOfEra day year dayOfYear)
    (h' : YearOfEra day' year' dayOfYear') (hlt : day < day') : year ≤ year' := by
  obtain ⟨-, -, hnonneg, -, hday⟩ := h
  obtain ⟨-, -, -, hdays, hday'⟩ := h'
  have hleap : year' / 4 ≤ year / 4 → year' / 4 - year' / 100 ≤ year / 4 - year / 100 := by
    rw [show year / 100 = year / 4 / 25 by omega, show year' / 100 = year' / 4 / 25 by omega]
    omega
  omega

def months (n : Int) : Int :=
  let dayOfEra := n % 146097
  let yearOfEra := (dayOfEra - dayOfEra / 1460 + dayOfEra / 36524 - dayOfEra / 146096) / 365
  let dayOfYear := dayOfEra - (365 * yearOfEra + yearOfEra / 4 - yearOfEra / 100)
  12 * (yearOfEra + n / 146097 * 400) + (5 * dayOfYear + 2) / 153

theorem months_mono {n m : Int} (h : n ≤ m) : months n ≤ months m := by
  rcases Int.lt_or_eq_of_le h with hlt | rfl
  case inr => exact Int.le_refl _
  simp only [months]
  generalize hyn : (n % 146097 - n % 146097 / 1460 + n % 146097 / 36524 - n % 146097 / 146096) / 365 = y
  generalize hym : (m % 146097 - m % 146097 / 1460 + m % 146097 / 36524 - m % 146097 / 146096) / 365 = z
  generalize hdn : n % 146097 - (365 * y + y / 4 - y / 100) = d
  generalize hdm : m % 146097 - (365 * z + z / 4 - z / 100) = c
  have hn : YearOfEra (n % 146097) y d := yearOfEra (by omega) hyn hdn
  have hm : YearOfEra (m % 146097) z c := yearOfEra (by omega) hym hdm
  clear hyn hym hdn hdm
  have hmonths : (5 * d + 2) / 153 ≤ 11 ∧ 0 ≤ (5 * c + 2) / 153 := by
    have := hn.dayOfYear_lt
    have := hm.dayOfYear_nonneg
    omega
  have hyears := hn.year_lt
  have hyears' := hm.year_nonneg
  rcases Int.lt_or_eq_of_le (show n / 146097 ≤ m / 146097 by omega) with hera | hera
  · omega
  · rcases Int.lt_or_eq_of_le (hn.year_le hm (by omega)) with hyear | rfl
    · omega
    · have hdays : d ≤ c := by
        have := hn.day_eq
        have := hm.day_eq
        omega
      omega

def monthIndex (d : Day) : Int := d.year * 12 + d.month

theorem monthIndex_eq (d : Day) : d.monthIndex = months (d.number + 719468) + 3 ∧ 1 ≤ d.month ∧ d.month ≤ 12 := by
  simp only [monthIndex, year, month, civil, months]
  generalize hn : d.number + 719468 = n
  generalize hy : (n % 146097 - n % 146097 / 1460 + n % 146097 / 36524 - n % 146097 / 146096) / 365 = y
  generalize hd : n % 146097 - (365 * y + y / 4 - y / 100) = c
  have h : YearOfEra (n % 146097) y c := yearOfEra (by omega) hy hd
  have hmonth : 0 ≤ (5 * c + 2) / 153 ∧ (5 * c + 2) / 153 ≤ 11 := by
    have := h.dayOfYear_nonneg
    have := h.dayOfYear_lt
    omega
  generalize (5 * c + 2) / 153 = m at hmonth
  split
  · simp only [Int.toNat_of_nonneg (show 0 ≤ m + 3 by omega)]
    omega
  · simp only [Int.toNat_of_nonneg (show 0 ≤ m - 9 by omega)]
    omega

theorem monthIndex_mono {a b : Day} (h : a ≤ b) : a.monthIndex ≤ b.monthIndex := by
  rw [(monthIndex_eq a).1, (monthIndex_eq b).1]
  have hle : a.number ≤ b.number := h
  exact Int.add_le_add_right (months_mono (by omega)) 3

theorem sameMonth_iff {a b : Day} : a.SameMonth b ↔ a.monthIndex = b.monthIndex := by
  obtain ⟨-, ha⟩ := monthIndex_eq a
  obtain ⟨-, hb⟩ := monthIndex_eq b
  unfold SameMonth monthIndex
  omega

@[simp] theorem SameMonth.refl (a : Day) : a.SameMonth a := ⟨rfl, rfl⟩

theorem SameMonth.symm {a b : Day} (h : a.SameMonth b) : b.SameMonth a := ⟨h.1.symm, h.2.symm⟩

theorem SameMonth.trans {a b c : Day} (h : a.SameMonth b) (h' : b.SameMonth c) : a.SameMonth c :=
  ⟨h.1.trans h'.1, h.2.trans h'.2⟩

theorem SameMonth.between {a b c : Day} (h : a.SameMonth c) (hab : a ≤ b) (hbc : b ≤ c) : b.SameMonth c := by
  rw [sameMonth_iff] at h ⊢
  exact Int.le_antisymm (monthIndex_mono hbc) (h ▸ monthIndex_mono hab)

end Day
end Settlement
