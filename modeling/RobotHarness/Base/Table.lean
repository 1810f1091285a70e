import Mathlib.Data.List.Nodup

/-!
# Tables in the order of their insertions

Dictionaries that remember the order in which their keys were first assigned. A table never
holds a key twice.
-/

universe u v

/-- Entries with distinct keys, oldest first. -/
structure Table (κ : Type u) (α : Type v) where
  entries : List (κ × α)
  nodup : (entries.map Prod.fst).Nodup

namespace Table

variable {κ : Type u} {α : Type v}

/-- The empty table. -/
def empty : Table κ α := ⟨[], List.nodup_nil⟩

/-- The number of keys. -/
def size (t : Table κ α) : ℕ := t.entries.length

/-- The table without its oldest key. -/
def evict (t : Table κ α) : Table κ α :=
  ⟨t.entries.tail, by
    rw [List.map_tail]
    exact t.nodup.sublist (List.tail_sublist _)⟩

/-- An empty table has no entry. -/
@[simp] theorem size_empty : (empty : Table κ α).size = 0 := rfl

/-- An eviction removes one entry. -/
theorem size_evict {t : Table κ α} : t.evict.size = t.size - 1 := by simp [size, evict]

variable [DecidableEq κ]

/-- The value of a key. -/
def get? (t : Table κ α) (key : κ) : Option α :=
  (t.entries.find? fun entry ↦ entry.1 = key).map Prod.snd

/-- The assignment of a key, in place when the table has it. -/
def set (t : Table κ α) (key : κ) (value : α) : Table κ α :=
  if h : key ∈ t.entries.map Prod.fst then
    ⟨t.entries.map fun entry ↦ if entry.1 = key then (key, value) else entry, by
      have hkeys : (t.entries.map fun entry ↦ if entry.1 = key then (key, value) else entry).map
          Prod.fst = t.entries.map Prod.fst := by
        rw [List.map_map]
        refine List.map_congr_left fun entry _ ↦ ?_
        by_cases he : entry.1 = key <;> simp [he]
      rw [hkeys]
      exact t.nodup⟩
  else
    ⟨t.entries ++ [(key, value)], by
      rw [List.map_append, List.nodup_append]
      refine ⟨t.nodup, List.nodup_singleton _, fun a ha b hb ↦ ?_⟩
      rw [List.map_singleton, List.mem_singleton] at hb
      rintro rfl
      subst hb
      exact h ha⟩

variable {t : Table κ α} {key other : κ} {value : α}

/-- An empty table has no value. -/
@[simp] theorem get?_empty : (empty : Table κ α).get? key = none := rfl

/-- A value is that of an entry. -/
theorem get?_eq_some_iff : t.get? key = some value ↔ (key, value) ∈ t.entries := by
  obtain ⟨entries, hnodup⟩ := t
  simp only [get?]
  induction entries with
  | nil => simp
  | cons entry entries ih =>
    rw [List.map_cons, List.nodup_cons] at hnodup
    by_cases he : entry.1 = key
    · subst he
      simp only [List.find?_cons, decide_true, Option.map_some, Option.some.injEq, List.mem_cons]
      constructor
      · rintro rfl
        exact .inl rfl
      · rintro (hv | hmem)
        · rw [← hv]
        · exact absurd (List.mem_map_of_mem hmem) hnodup.1
    · simp only [List.find?_cons, he, decide_false, ih hnodup.2, List.mem_cons]
      exact ⟨.inr, fun h ↦ h.resolve_left fun heq ↦ he (heq ▸ rfl)⟩

/-- A key has the value that it was given. -/
@[simp] theorem get?_set_self : (t.set key value).get? key = some value := by
  rw [get?_eq_some_iff, set]
  split
  · next h =>
    obtain ⟨entry, hmem, rfl⟩ := List.mem_map.mp h
    exact List.mem_map.mpr ⟨entry, hmem, by simp⟩
  · simp

/-- Other keys keep their values. -/
theorem get?_set_of_ne (h : other ≠ key) : (t.set key value).get? other = t.get? other := by
  refine Option.ext fun v ↦ ?_
  rw [get?_eq_some_iff, get?_eq_some_iff, set]
  split
  · simp only [List.mem_map]
    constructor
    · rintro ⟨entry, hmem, heq⟩
      by_cases he : entry.1 = key
      · rw [if_pos he] at heq
        exact absurd (congrArg Prod.fst heq).symm h
      · rw [if_neg he] at heq
        exact heq ▸ hmem
    · intro hmem
      exact ⟨_, hmem, by simp [h]⟩
  · simp [h]

/-- An assignment to a key of the table keeps its size. -/
theorem size_set_of_get? {v : α} (h : t.get? key = some v) : (t.set key value).size = t.size := by
  have hmem : key ∈ t.entries.map Prod.fst :=
    List.mem_map.mpr ⟨_, get?_eq_some_iff.mp h, rfl⟩
  simp only [size, set, dif_pos hmem, List.length_map]

/-- An assignment adds at most one key. -/
theorem size_set_le : (t.set key value).size ≤ t.size + 1 := by
  simp only [size, set]
  split <;> simp

/-- What is left after an eviction was there before. -/
theorem get?_of_get?_evict {v : α} (h : t.evict.get? key = some v) : t.get? key = some v := by
  rw [get?_eq_some_iff] at h ⊢
  exact List.mem_of_mem_tail h

end Table
