import Settlement.Payment.Status

/-! The furthest of several statuses. It depends on which ones there are, and not on their
order or on how often one occurs. -/
namespace Settlement
namespace PaymentStatus

def furthest : List PaymentStatus → PaymentStatus
  | [] => .created
  | s :: rest => if s.progress ≤ (furthest rest).progress then furthest rest else s

theorem furthest_cons_of_le {s : PaymentStatus} {l : List PaymentStatus} (h : s.progress ≤ (furthest l).progress) :
    furthest (s :: l) = furthest l := if_pos h

theorem furthest_cons_of_lt {s : PaymentStatus} {l : List PaymentStatus} (h : (furthest l).progress < s.progress) :
    furthest (s :: l) = s := if_neg (Nat.not_le.mpr h)

theorem progress_le_furthest {s : PaymentStatus} {l : List PaymentStatus} (h : s ∈ l) :
    s.progress ≤ (furthest l).progress := by
  induction l with
  | nil => cases h
  | cons t l ih =>
    rcases Nat.lt_or_ge (furthest l).progress t.progress with hlt | hle
    · rw [furthest_cons_of_lt hlt]
      rcases List.mem_cons.mp h with rfl | hs
      · exact Nat.le_refl _
      · exact Nat.le_trans (ih hs) (Nat.le_of_lt hlt)
    · rw [furthest_cons_of_le hle]
      rcases List.mem_cons.mp h with rfl | hs
      · exact hle
      · exact ih hs

theorem furthest_mem (l : List PaymentStatus) : furthest l = .created ∨ furthest l ∈ l := by
  induction l with
  | nil => exact .inl rfl
  | cons t l ih =>
    rcases Nat.lt_or_ge (furthest l).progress t.progress with hlt | hle
    · rw [furthest_cons_of_lt hlt]
      exact .inr List.mem_cons_self
    · rw [furthest_cons_of_le hle]
      exact ih.imp_right (List.mem_cons_of_mem t)

theorem one_le_progress_furthest (l : List PaymentStatus) : 1 ≤ (furthest l).progress := by
  induction l with
  | nil => decide
  | cons t l ih =>
    rcases Nat.lt_or_ge (furthest l).progress t.progress with hlt | hle
    · rw [furthest_cons_of_lt hlt]
      omega
    · rw [furthest_cons_of_le hle]
      exact ih

theorem eq_of_progress_eq {s t : PaymentStatus} (hs : 1 ≤ s.progress) (h : s.progress = t.progress) : s = t := by
  cases s <;> cases t <;> first | rfl | simp [progress] at hs h

theorem isTerminal_of_progress_lt {s t : PaymentStatus} (hs : 1 ≤ s.progress) (h : s.progress < t.progress) :
    s.isTerminal = false := by
  have ht : t.progress ≤ completed.progress := by cases t <;> decide
  cases s with
  | created | pending | confirming => rfl
  | completed => exact absurd h (Nat.not_lt.mpr ht)
  | expired | failed => cases hs

theorem progress_furthest_le {l l' : List PaymentStatus} (h : ∀ s, s ∈ l → s ∈ l') :
    (furthest l).progress ≤ (furthest l').progress := by
  obtain hc | hm := furthest_mem l
  · rw [hc]
    exact one_le_progress_furthest l'
  · exact progress_le_furthest (h _ hm)

theorem furthest_congr {l l' : List PaymentStatus} (h : ∀ s, s ∈ l ↔ s ∈ l') : furthest l = furthest l' :=
  eq_of_progress_eq (one_le_progress_furthest l)
    (Nat.le_antisymm (progress_furthest_le fun s => (h s).mp) (progress_furthest_le fun s => (h s).mpr))

theorem furthest_eq_completed_iff {l : List PaymentStatus} : furthest l = .completed ↔ .completed ∈ l := by
  constructor
  · intro hc
    obtain hcreated | hm := furthest_mem l
    · cases hc.symm.trans hcreated
    · exact hc ▸ hm
  · intro h
    have hle : (furthest l).progress ≤ completed.progress := by cases furthest l <;> decide
    exact (eq_of_progress_eq (by decide) (Nat.le_antisymm (progress_le_furthest h) hle)).symm

end PaymentStatus
end Settlement
