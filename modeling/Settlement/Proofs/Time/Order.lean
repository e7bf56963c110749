import Settlement.Time.Instant

/-! The order of time, and records of what happened when. Such a record stays in order if nothing is
added to it but the present. -/
namespace Settlement
namespace Instant

theorem le_refl (a : Instant) : a ≤ a := by
  rw [le_iff]
  omega

theorem le_trans {a b c : Instant} (hab : a ≤ b) (hbc : b ≤ c) : a ≤ c := by
  rw [le_iff] at *
  omega

theorem lt_of_lt_of_le {a b c : Instant} (hab : a < b) (hbc : b ≤ c) : a < c := by
  rw [lt_iff] at *
  rw [le_iff] at hbc
  omega

end Instant

/-- When something reached its stages, one after the other, and when it last changed. -/
structure Timeline where
  stages : List Instant
  changed : Instant

namespace Timeline

variable {t next : Timeline} {now : Instant}

/-- No stage was reached later than the one after it, and none later than the last change. -/
def InOrder (t : Timeline) : Prop := (t.stages ++ [t.changed]).Pairwise (· ≤ ·)

/-- Nothing changes, or what changes does so at present, and so are further stages reached. -/
def Extends (t : Timeline) (now : Instant) (next : Timeline) : Prop :=
  next = t ∨ next.changed = now ∧ ∃ added, next.stages = t.stages ++ added ∧ ∀ s ∈ added, s = now

theorem InOrder.le_changed (h : t.InOrder) : ∀ s ∈ t.stages, s ≤ t.changed :=
  fun s hs => (List.pairwise_append.mp h).2.2 s hs t.changed (List.mem_singleton_self t.changed)

theorem inOrder_start (now : Instant) : InOrder ⟨[now], now⟩ := by
  simp [InOrder, now.le_refl]

theorem extends_of_changed (h : next.changed = now) (same : next.stages = t.stages) : t.Extends now next :=
  .inr ⟨h, [], by rw [same, List.append_nil], List.forall_mem_nil _⟩

theorem InOrder.extend (h : t.InOrder) (hextends : t.Extends now next) {past : Instant} (changed : t.changed ≤ past)
    (later : past ≤ now) : next.InOrder ∧ next.changed ≤ now := by
  have hnow : t.changed ≤ now := Instant.le_trans changed later
  obtain rfl | ⟨hchanged, added, hstages, hpresent⟩ := hextends
  · exact ⟨h, hnow⟩
  have hpast : ∀ s ∈ t.stages, s ≤ now := fun s hs => Instant.le_trans (h.le_changed s hs) hnow
  have hrest : ∀ s ∈ added ++ [now], s = now := by
    rw [List.forall_mem_append, List.forall_mem_singleton]
    exact ⟨hpresent, rfl⟩
  rw [InOrder, hstages, hchanged, List.append_assoc]
  refine ⟨List.pairwise_append.mpr ⟨(List.pairwise_append.mp h).1, ?_, ?_⟩, now.le_refl⟩
  · refine List.pairwise_of_forall_mem_list fun s hs s' hs' => ?_
    rw [hrest s hs, hrest s' hs']
    exact now.le_refl
  · intro s hs s' hs'
    rw [hrest s' hs']
    exact hpast s hs

end Timeline
end Settlement
