import Mathlib.Algebra.Order.BigOperators.Group.List
import Mathlib.Algebra.Order.Field.Rat
import Mathlib.Data.List.Induction
import Mathlib.Data.List.Nodup
import Mathlib.Tactic.Linarith
import Mathlib.Tactic.Ring
import Settlement.Table

/-! Keys and values of a table, and sums over the values. -/
namespace Settlement
namespace Table

variable {κ ν : Type} (keep : ν → Prop) [DecidablePred keep] (f : ν → ℚ)

def total (t : Table κ ν) : ℚ := ((t.values.filter keep).map f).sum

def share (v : ν) : ℚ := if keep v then f v else 0

def shareOf (value : Option ν) : ℚ := (value.map (share keep f)).getD 0

theorem total_eq_sum_share (t : Table κ ν) : t.total keep f = (t.values.map (share keep f)).sum := by
  unfold total
  induction t.values with
  | nil => rfl
  | cons v l ih =>
    by_cases h : keep v
    · simp [h, share, ih]
    · simp [h, share, ih]

@[simp] theorem total_empty : (empty : Table κ ν).total keep f = 0 := rfl

theorem total_mapValues {g : κ → ν → ν} (h : ∀ k v, share keep f (g k v) = share keep f v) (t : Table κ ν) :
    (t.mapValues g).total keep f = t.total keep f := by
  rw [total_eq_sum_share, total_eq_sum_share, values, values, mapValues, List.map_map, List.map_map, List.map_map]
  exact congrArg List.sum (List.map_congr_left fun entry _ => h entry.1 entry.2)

theorem share_nonneg {keep : ν → Prop} [DecidablePred keep] {f : ν → ℚ} {v : ν} (h : keep v → 0 ≤ f v) :
    0 ≤ share keep f v := by
  unfold share
  split
  case isTrue hk => exact h hk
  case isFalse => exact le_refl 0

variable [DecidableEq κ]

theorem sum_put (key : κ) (value : ν) (l : List (κ × ν)) :
    (((put key value l).map Prod.snd).map (share keep f)).sum =
      ((l.map Prod.snd).map (share keep f)).sum - shareOf keep f (find? key l) + share keep f value := by
  induction l with
  | nil => simp [put, find?, shareOf]
  | cons entry l ih =>
    obtain ⟨k, v⟩ := entry
    by_cases h : k = key
    · simp only [put, find?, if_pos h, List.map_cons, List.sum_cons, shareOf, Option.map_some, Option.getD_some]
      ring
    · simp only [put, find?, if_neg h, List.map_cons, List.sum_cons, ih]
      ring

theorem total_insert (t : Table κ ν) (key : κ) (value : ν) :
    (t.insert key value).total keep f =
      t.total keep f - shareOf keep f (t.get? key) + share keep f value := by
  rw [total_eq_sum_share, total_eq_sum_share]
  exact sum_put keep f key value t.entries

/-! ## Keys and values -/

theorem mem_map_fst_iff_find? {key : κ} {l : List (κ × ν)} : key ∈ l.map Prod.fst ↔ (find? key l).isSome := by
  induction l with
  | nil => simp [find?]
  | cons entry l ih =>
    obtain ⟨k, v⟩ := entry
    by_cases h : k = key
    · simp [find?, h]
    · simp only [List.map_cons, List.mem_cons, find?, if_neg h, ih]
      constructor
      · rintro (rfl | hm)
        · exact absurd rfl h
        · exact hm
      · exact .inr

theorem mem_keys_iff {t : Table κ ν} {key : κ} : key ∈ t.keys ↔ (t.get? key).isSome := mem_map_fst_iff_find?

theorem find?_eq_some_iff {key : κ} {v : ν} {l : List (κ × ν)} (nodup : (l.map Prod.fst).Nodup) :
    find? key l = some v ↔ (key, v) ∈ l := by
  induction l with
  | nil => simp [find?]
  | cons entry l ih =>
    obtain ⟨k, w⟩ := entry
    rw [List.map_cons, List.nodup_cons] at nodup
    by_cases h : k = key
    · subst h
      have hother : (k, v) ∉ l := fun hm => nodup.1 (List.mem_map.mpr ⟨_, hm, rfl⟩)
      simp [find?, hother, eq_comm]
    · simp [find?, h, ih nodup.2, Ne.symm h]

theorem mem_values_iff {t : Table κ ν} {v : ν} : v ∈ t.values ↔ ∃ key, t.get? key = some v := by
  unfold values get?
  simp only [find?_eq_some_iff t.nodup, List.mem_map]
  constructor
  · rintro ⟨⟨key, w⟩, hm, rfl⟩
    exact ⟨key, hm⟩
  · rintro ⟨key, hm⟩
    exact ⟨_, hm, rfl⟩

/-! ## Bounds of sums -/

variable {keep f} {t : Table κ ν}

/-- A sum is in a set of numbers that contains zero, is closed under sums and contains what is summed. -/
theorem total_mem {set : ℚ → Prop} (zero : set 0) (add : ∀ {p q}, set p → set q → set (p + q))
    (h : ∀ key v, t.get? key = some v → keep v → set (f v)) : set (t.total keep f) := by
  have hvalues : ∀ v ∈ t.values, keep v → set (f v) := by
    intro v hv hk
    obtain ⟨key, hkey⟩ := mem_values_iff.mp hv
    exact h key v hkey hk
  unfold total
  generalize t.values = values at hvalues
  induction values with
  | nil => exact zero
  | cons v l ih =>
    obtain ⟨hv, hl⟩ := List.forall_mem_cons.mp hvalues
    by_cases hk : keep v
    · simpa [hk] using add (hv hk) (ih hl)
    · simpa [hk] using ih hl

theorem total_nonneg (h : ∀ key v, t.get? key = some v → keep v → 0 ≤ f v) : 0 ≤ t.total keep f :=
  total_mem (le_refl 0) add_nonneg h

theorem total_le_total {more : ν → Prop} [DecidablePred more]
    (h : ∀ key v, t.get? key = some v → keep v → more v)
    (hnonneg : ∀ key v, t.get? key = some v → more v → 0 ≤ f v) :
    t.total keep f ≤ t.total more f := by
  rw [total_eq_sum_share, total_eq_sum_share]
  refine List.sum_le_sum fun v hv => ?_
  obtain ⟨key, hkey⟩ := mem_values_iff.mp hv
  by_cases hk : keep v
  · rw [share, share, if_pos hk, if_pos (h key v hkey hk)]
  · rw [share, if_neg hk]
    exact share_nonneg (hnonneg key v hkey)

theorem value_le_total (h : ∀ key v, t.get? key = some v → keep v → 0 ≤ f v) {key : κ} {v : ν}
    (hv : t.get? key = some v) (hk : keep v) : f v ≤ t.total keep f := by
  rw [total_eq_sum_share]
  have hshare : f v = share keep f v := (if_pos hk).symm
  rw [hshare]
  refine List.single_le_sum ?_ _ (List.mem_map.mpr ⟨v, mem_values_iff.mpr ⟨key, hv⟩, rfl⟩)
  intro q hq
  obtain ⟨w, hw, rfl⟩ := List.mem_map.mp hq
  obtain ⟨other, ho⟩ := mem_values_iff.mp hw
  exact share_nonneg (h other w ho)

end Table

namespace Table

/-! ## Parts of a table -/

variable {κ ν : Type} (keep : κ → ν → Bool)

def restrict (t : Table κ ν) : Table κ ν :=
  ⟨t.entries.filter fun e => keep e.1 e.2, t.nodup.sublist (List.filter_sublist.map Prod.fst)⟩

theorem restrict_mapValues {f : κ → ν → ν} (h : ∀ k v, keep k (f k v) = keep k v) (t : Table κ ν) :
    (t.mapValues f).restrict keep = (t.restrict keep).mapValues f := by
  simp [restrict, mapValues, List.filter_map, Function.comp_def, h]

variable [DecidableEq κ] {keep}

theorem find?_filter {key : κ} {l : List (κ × ν)} (nodup : (l.map Prod.fst).Nodup) :
    find? key (l.filter fun e => keep e.1 e.2) = (find? key l).filter (keep key) := by
  have hfilter := nodup.sublist ((List.filter_sublist (p := fun e : κ × ν => keep e.1 e.2)).map Prod.fst)
  ext v
  rw [find?_eq_some_iff hfilter, List.mem_filter, Option.filter_eq_some_iff, find?_eq_some_iff nodup]

theorem get?_restrict (t : Table κ ν) (key : κ) : (t.restrict keep).get? key = (t.get? key).filter (keep key) :=
  find?_filter t.nodup

theorem filter_put_of_keep {key : κ} {value : ν} {l : List (κ × ν)} (new : keep key value = true)
    (old : ∀ v, find? key l = some v → keep key v = true) :
    (put key value l).filter (fun e => keep e.1 e.2) = put key value (l.filter fun e => keep e.1 e.2) := by
  induction l with
  | nil => simp [put, new]
  | cons e l ih =>
    obtain ⟨k, v⟩ := e
    by_cases hk : k = key
    · subst hk
      have hv : keep k v = true := old v (by simp [find?])
      simp [put, hv, new]
    · have hl := ih fun w hw => old w (by simpa [find?, hk] using hw)
      cases hv : keep k v <;> simp [put, hk, hv, hl]

theorem filter_put_of_not {key : κ} {value : ν} {l : List (κ × ν)} (new : keep key value = false)
    (old : ∀ v, find? key l = some v → keep key v = false) :
    (put key value l).filter (fun e => keep e.1 e.2) = l.filter fun e => keep e.1 e.2 := by
  induction l with
  | nil => simp [put, new]
  | cons e l ih =>
    obtain ⟨k, v⟩ := e
    by_cases hk : k = key
    · subst hk
      have hv : keep k v = false := old v (by simp [find?])
      simp [put, hv, new]
    · have hl := ih fun w hw => old w (by simpa [find?, hk] using hw)
      simp [put, hk, List.filter_cons, hl]

theorem restrict_insert_of_keep {t : Table κ ν} {key : κ} {value : ν} (new : keep key value = true)
    (old : ∀ v, t.get? key = some v → keep key v = true) :
    (t.insert key value).restrict keep = (t.restrict keep).insert key value := by
  simp only [restrict, insert, filter_put_of_keep new old]

theorem restrict_insert_of_not {t : Table κ ν} {key : κ} {value : ν} (new : keep key value = false)
    (old : ∀ v, t.get? key = some v → keep key v = false) :
    (t.insert key value).restrict keep = t.restrict keep := by
  simp only [restrict, insert, filter_put_of_not new old]

end Table

namespace Table

/-! ## The last entry with a key -/

variable {κ ν : Type} {key other : κ} {v : ν} {l : List (κ × ν)}

theorem key_unique (values : (l.map Prod.snd).Nodup) (h : (key, v) ∈ l) (ho : (other, v) ∈ l) : key = other := by
  have hentry : (key, v) = (other, v) := List.inj_on_of_nodup_map values h ho rfl
  exact congrArg Prod.fst hentry

variable [DecidableEq κ]

theorem mem_of_find? (h : find? key l = some v) : (key, v) ∈ l := by
  induction l with
  | nil => cases h
  | cons entry l ih =>
    obtain ⟨k, w⟩ := entry
    rw [find?] at h
    split at h
    case isTrue hk =>
      cases h
      rw [hk]
      exact List.mem_cons_self
    case isFalse => exact List.mem_cons_of_mem _ (ih h)

theorem find?_append_singleton_reverse (l : List (κ × ν)) (k : κ) (w : ν) :
    find? key (l ++ [(k, w)]).reverse = if k = key then some w else find? key l.reverse := by
  rw [List.reverse_append]
  rfl

theorem find?_reverse_eq_some_iff :
    find? key l.reverse = some v ↔ ∃ earlier later, l = earlier ++ (key, v) :: later ∧ key ∉ later.map Prod.fst := by
  induction l using List.reverseRecOn with
  | nil => simp [find?]
  | append_singleton l entry ih =>
    obtain ⟨k, w⟩ := entry
    rw [find?_append_singleton_reverse]
    by_cases hk : k = key
    · rw [if_pos hk]
      constructor
      · intro h
        cases h
        exact ⟨l, [], by rw [hk], List.not_mem_nil⟩
      · rintro ⟨earlier, later, hl, hlater⟩
        rcases List.eq_nil_or_concat later with rfl | ⟨later, last, rfl⟩
        · cases (List.append_inj' hl rfl).2
          rfl
        · rw [List.concat_eq_append, ← List.cons_append, ← List.append_assoc] at hl
          cases (List.append_inj' hl rfl).2
          simp [hk] at hlater
    · rw [if_neg hk, ih]
      constructor
      · rintro ⟨earlier, later, rfl, hlater⟩
        exact ⟨earlier, later ++ [(k, w)], by simp, by simpa [Ne.symm hk] using hlater⟩
      · rintro ⟨earlier, later, hl, hlater⟩
        rcases List.eq_nil_or_concat later with rfl | ⟨later, last, rfl⟩
        · cases (List.append_inj' hl rfl).2
          exact absurd rfl hk
        · rw [List.concat_eq_append, ← List.cons_append, ← List.append_assoc] at hl
          refine ⟨earlier, later, (List.append_inj' hl rfl).1, fun hmem => hlater ?_⟩
          rw [List.concat_eq_append, List.map_append]
          exact List.mem_append_left _ hmem

/-- If no two entries have the same value, all values are found just if no two have the same key. -/
theorem forall_find?_iff_nodup (values : (l.map Prod.snd).Nodup) :
    (∀ v ∈ l.map Prod.snd, ∃ key, find? key l = some v) ↔ (l.map Prod.fst).Nodup := by
  constructor
  · induction l with
    | nil => exact fun _ => List.nodup_nil
    | cons entry l ih =>
      obtain ⟨k, w⟩ := entry
      intro h
      rw [List.map_cons, List.nodup_cons] at values ⊢
      have hfound : ∀ v ∈ l.map Prod.snd, ∃ key, key ≠ k ∧ find? key l = some v := by
        intro v hv
        obtain ⟨key, hkey⟩ := h v (List.mem_cons_of_mem _ hv)
        rw [find?] at hkey
        split at hkey
        case isTrue =>
          cases hkey
          exact absurd hv values.1
        case isFalse hk => exact ⟨key, Ne.symm hk, hkey⟩
      refine ⟨fun hk => ?_, ih values.2 fun v hv => (hfound v hv).imp fun _ hkey => hkey.2⟩
      obtain ⟨⟨_, v⟩, hv, rfl⟩ := List.mem_map.mp hk
      obtain ⟨key, hne, hkey⟩ := hfound v (List.mem_map_of_mem hv)
      exact hne (key_unique values.2 (mem_of_find? hkey) hv)
  · intro keys v hv
    obtain ⟨⟨key, _⟩, hentry, rfl⟩ := List.mem_map.mp hv
    exact ⟨key, (find?_eq_some_iff keys).mpr hentry⟩

end Table
end Settlement
