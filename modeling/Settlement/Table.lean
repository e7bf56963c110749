/-! Finite maps with their entries in order of first insertion. -/
namespace Settlement

structure Table (κ ν : Type) where
  entries : List (κ × ν)
  nodup : (entries.map Prod.fst).Nodup

namespace Table

variable {κ ν : Type}

def empty : Table κ ν := ⟨[], List.nodup_nil⟩

instance : EmptyCollection (Table κ ν) := ⟨empty⟩

def size (t : Table κ ν) : Nat := t.entries.length

def keys (t : Table κ ν) : List κ := t.entries.map Prod.fst

def values (t : Table κ ν) : List ν := t.entries.map Prod.snd

def mapValues (f : κ → ν → ν) (t : Table κ ν) : Table κ ν :=
  ⟨t.entries.map fun e => (e.1, f e.1 e.2), by simpa [List.map_map, Function.comp_def] using t.nodup⟩

variable [DecidableEq κ]

def find? (key : κ) : List (κ × ν) → Option ν
  | [] => none
  | (k, v) :: rest => if k = key then some v else find? key rest

def get? (t : Table κ ν) (key : κ) : Option ν := find? key t.entries

def contains (t : Table κ ν) (key : κ) : Bool := (t.get? key).isSome

/-- Replaces the value of a key, or appends a new entry. -/
def put (key : κ) (value : ν) : List (κ × ν) → List (κ × ν)
  | [] => [(key, value)]
  | (k, v) :: rest => if k = key then (k, value) :: rest else (k, v) :: put key value rest

theorem mem_keys_put {key k : κ} {value : ν} {l : List (κ × ν)} :
    k ∈ (put key value l).map Prod.fst ↔ k = key ∨ k ∈ l.map Prod.fst := by
  induction l with
  | nil => simp [put]
  | cons e l ih =>
    obtain ⟨k', v⟩ := e
    by_cases h : k' = key
    · simp [put, h]
    · simp only [put, h, if_false, List.map_cons, List.mem_cons, ih]
      grind

theorem nodup_put {key : κ} {value : ν} {l : List (κ × ν)} (h : (l.map Prod.fst).Nodup) :
    ((put key value l).map Prod.fst).Nodup := by
  induction l with
  | nil => simp [put]
  | cons e l ih =>
    obtain ⟨k, v⟩ := e
    rw [List.map_cons, List.nodup_cons] at h
    by_cases hk : k = key
    · rw [put, if_pos hk, List.map_cons, List.nodup_cons]
      exact h
    · simp only [put, hk, if_false, List.map_cons, List.nodup_cons]
      exact ⟨by rw [mem_keys_put]; rintro (rfl | hm); exact hk rfl; exact h.1 hm, ih h.2⟩

def insert (t : Table κ ν) (key : κ) (value : ν) : Table κ ν :=
  ⟨put key value t.entries, nodup_put t.nodup⟩

theorem find?_put {key k : κ} {value : ν} {l : List (κ × ν)} :
    find? k (put key value l) = if k = key then some value else find? k l := by
  induction l with
  | nil => simp [put, find?, eq_comm]
  | cons e l ih =>
    obtain ⟨k', v⟩ := e
    by_cases h : k' = key
    · simp only [put, h, if_true, find?]
      grind
    · simp only [put, h, if_false, find?, ih]
      grind

theorem get?_insert (t : Table κ ν) (key k : κ) (value : ν) :
    (t.insert key value).get? k = if k = key then some value else t.get? k := find?_put

@[simp] theorem get?_insert_self (t : Table κ ν) (key : κ) (value : ν) :
    (t.insert key value).get? key = some value := by simp [get?_insert]

theorem get?_insert_of_ne (t : Table κ ν) {key k : κ} (h : k ≠ key) (value : ν) :
    (t.insert key value).get? k = t.get? k := by simp [get?_insert, h]

theorem get?_mapValues (t : Table κ ν) (f : κ → ν → ν) (k : κ) :
    (t.mapValues f).get? k = (t.get? k).map (f k) := by
  show find? k (t.entries.map fun e => (e.1, f e.1 e.2)) = (find? k t.entries).map (f k)
  induction t.entries with
  | nil => rfl
  | cons e l ih =>
    obtain ⟨k', v⟩ := e
    by_cases h : k' = k <;> simp [find?, h, ih]

theorem insert_of_get? {t : Table κ ν} {key : κ} {value : ν} (h : t.get? key = some value) :
    t.insert key value = t := by
  obtain ⟨l, hl⟩ := t
  simp only [insert, get?] at h ⊢
  congr 1
  clear hl
  induction l with
  | nil => simp [find?] at h
  | cons e l ih =>
    obtain ⟨k, v⟩ := e
    by_cases hk : k = key
    · simp only [find?, hk, if_true, Option.some.injEq] at h
      simp [put, hk, h]
    · simp only [find?, hk, if_false] at h
      simp [put, hk, ih h]

end Table
end Settlement
