/-!
# Tables

A finite map as the list of its entries. No key occurs twice, and that is part of the type: the
number of entries is the number of keys that have a value, whatever was inserted and dropped before.
Entries stand in the order in which their keys came in.
-/

namespace ObjectConsole.Store

/-- Entries with distinct keys. -/
structure Table (κ ν : Type) where
  entries : List (κ × ν)
  nodup_keys : (entries.map Prod.fst).Nodup

namespace Table

variable {κ ν : Type}

/-- The table without entries. -/
def empty : Table κ ν := ⟨[], by simp⟩

instance : EmptyCollection (Table κ ν) := ⟨empty⟩

instance : Inhabited (Table κ ν) := ⟨∅⟩

/-- The number of entries. -/
def size (table : Table κ ν) : Nat :=
  table.entries.length

/-- The entries that satisfy a condition. -/
def filter (table : Table κ ν) (keep : κ × ν → Bool) : Table κ ν where
  entries := table.entries.filter keep
  nodup_keys := table.nodup_keys.sublist (List.filter_sublist.map _)

variable [DecidableEq κ]

/-- The value of a key among entries. -/
def find? (key : κ) : List (κ × ν) → Option ν
  | [] => none
  | entry :: rest => if entry.1 = key then some entry.2 else find? key rest

/-- The value of a key. -/
def get? (table : Table κ ν) (key : κ) : Option ν :=
  find? key table.entries

/-- Entries with the value of one key replaced, or with the key added behind them. -/
def put (key : κ) (value : ν) : List (κ × ν) → List (κ × ν)
  | [] => [(key, value)]
  | entry :: rest => if entry.1 = key then (key, value) :: rest else entry :: put key value rest

theorem find?_put (key other : κ) (value : ν) (entries : List (κ × ν)) :
    find? other (put key value entries) =
      if other = key then some value else find? other entries := by
  induction entries with
  | nil => simp [put, find?, eq_comm]
  | cons entry rest ih =>
    by_cases h : entry.1 = key <;> simp only [put, h, if_true, if_false, find?, ih] <;> grind

theorem mem_keys_put {key other : κ} {value : ν} {entries : List (κ × ν)} :
    other ∈ (put key value entries).map Prod.fst ↔ other = key ∨ other ∈ entries.map Prod.fst := by
  induction entries with
  | nil => simp [put]
  | cons entry rest ih =>
    by_cases h : entry.1 = key
    · simp [put, h]
    · simp only [put, h, if_false, List.map_cons, List.mem_cons, ih]
      grind

theorem nodup_keys_put (key : κ) (value : ν) {entries : List (κ × ν)}
    (h : (entries.map Prod.fst).Nodup) : ((put key value entries).map Prod.fst).Nodup := by
  induction entries with
  | nil => simp [put]
  | cons entry rest ih =>
    rw [List.map_cons, List.nodup_cons] at h
    by_cases he : entry.1 = key
    · simp only [put, he, if_true, List.map_cons, List.nodup_cons]
      exact ⟨he ▸ h.1, h.2⟩
    · rw [put, if_neg he, List.map_cons, List.nodup_cons, mem_keys_put, not_or]
      exact ⟨⟨he, h.1⟩, ih h.2⟩

/-- The table with the value of one key set. -/
def insert (table : Table κ ν) (key : κ) (value : ν) : Table κ ν where
  entries := put key value table.entries
  nodup_keys := nodup_keys_put key value table.nodup_keys

@[simp] theorem get?_empty (key : κ) : (∅ : Table κ ν).get? key = none := rfl

theorem get?_insert (table : Table κ ν) (key other : κ) (value : ν) :
    (table.insert key value).get? other = if other = key then some value else table.get? other :=
  find?_put key other value table.entries

theorem get?_eq_some_iff {table : Table κ ν} {key : κ} {value : ν} :
    table.get? key = some value ↔ (key, value) ∈ table.entries := by
  obtain ⟨entries, h⟩ := table
  simp only [get?]
  induction entries with
  | nil => simp [find?]
  | cons entry rest ih =>
    rw [List.map_cons, List.nodup_cons] at h
    by_cases he : entry.1 = key
    · subst he
      simp only [find?, if_true, Option.some.injEq, List.mem_cons]
      constructor
      · rintro rfl
        exact .inl rfl
      · rintro (hentry | hmem)
        · exact (congrArg Prod.snd hentry).symm
        · exact absurd (List.mem_map_of_mem hmem) h.1
    · simp only [find?, he, if_false, List.mem_cons, ih h.2]
      constructor
      · exact .inr
      · rintro (rfl | hmem)
        · exact absurd rfl he
        · exact hmem

theorem get?_filter {table : Table κ ν} {keep : κ × ν → Bool} {key : κ} {value : ν} :
    (table.filter keep).get? key = some value ↔
      table.get? key = some value ∧ keep (key, value) := by
  simp [get?_eq_some_iff, filter]

end Table

end ObjectConsole.Store
