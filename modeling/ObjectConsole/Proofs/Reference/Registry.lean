import ObjectConsole.Reference.Registry
import Mathlib.Data.List.Basic

/-!
# What the operations of the registry do

One lemma for each operation and each table that it reads or writes, so that nothing later has to
open a definition. The two tables never meet: adding and sweeping leave the names alone, and
promoting leaves the entries alone, however many names are drawn before a free one is found.

The age of an entry is computed in words, but it is compared as if it were computed in numbers
(`fresh_iff`): the difference is only formed when it does not go around, and a clock that went back
finds every entry fresh on either side.
-/

namespace ObjectConsole

open Store

namespace Store.Table

variable {κ ν : Type}

@[simp] theorem size_empty : (∅ : Table κ ν).size = 0 := rfl

/-- The keys that a filter drops, each once. -/
theorem exists_dropped_keys [DecidableEq κ] (table : Table κ ν) (keep : κ × ν → Bool) :
    ∃ keys : List κ, keys.Nodup ∧
      (∀ key, key ∈ keys ↔
        (table.get? key).isSome ∧ ((table.filter keep).get? key) = none) ∧
      keys.length + (table.filter keep).size = table.size := by
  refine ⟨(table.entries.filter fun row ↦ !keep row).map Prod.fst, ?_, fun key ↦ ?_, ?_⟩
  · exact table.nodup_keys.sublist (List.filter_sublist.map _)
  · rw [List.mem_map, Option.isSome_iff_exists]
    constructor
    · rintro ⟨⟨key, value⟩, hmem, rfl⟩
      rw [List.mem_filter] at hmem
      have hget : table.get? key = some value := get?_eq_some_iff.mpr hmem.1
      refine ⟨⟨value, hget⟩, Option.eq_none_iff_forall_ne_some.mpr fun other hother ↦ ?_⟩
      rw [get?_filter, hget, Option.some.injEq] at hother
      obtain ⟨rfl, hkeep⟩ := hother
      simp [hkeep] at hmem
    · rintro ⟨⟨value, hget⟩, hnone⟩
      refine ⟨(key, value), List.mem_filter.mpr ⟨get?_eq_some_iff.mp hget, ?_⟩, rfl⟩
      rw [Bool.not_eq_true', Bool.eq_false_iff]
      intro hkeep
      rw [get?_filter.mpr ⟨hget, hkeep⟩] at hnone
      cases hnone
  · rw [List.length_map, Nat.add_comm]
    exact (table.entries.length_eq_length_filter_add keep).symm

end Store.Table

namespace Registry

variable {registry : Registry}

/-! ## Resolving -/

theorem resolve_ephemeral_eq_ok_iff {id : Uuid} {v : Value} :
    registry.resolve (.ephemeral id) = .ok v ↔ registry.find? id = some v := by
  simp only [resolve]
  cases registry.find? id <;> simp

theorem resolve_persistent_eq_ok_iff {name : String} {v : Value} :
    registry.resolve (.persistent name) = .ok v ↔ registry.named? name = some v := by
  simp only [resolve]
  cases registry.named? name <;> simp

/-! ## Adding -/

theorem find?_eq_some_iff {id : Uuid} {v : Value} :
    registry.find? id = some v ↔ ∃ clock, registry.ephemeral.get? id = some ⟨clock, v⟩ := by
  rw [find?, Option.map_eq_some_iff]
  constructor
  · rintro ⟨⟨clock, v⟩, hget, rfl⟩
    exact ⟨clock, hget⟩
  · rintro ⟨clock, hget⟩
    exact ⟨⟨clock, v⟩, hget, rfl⟩

@[simp] theorem find?_empty (id : Uuid) : (∅ : Registry).find? id = none := rfl

@[simp] theorem named?_empty (name : String) : (∅ : Registry).named? name = none := rfl

theorem get?_add (now : UInt64) (id other : Uuid) (v : Value) :
    (registry.add now id v).ephemeral.get? other =
      if other = id then some ⟨now, v⟩ else registry.ephemeral.get? other :=
  Table.get?_insert _ _ _ _

theorem resolve_add (now : UInt64) (id : Uuid) (v : Value) (token : Token) :
    (registry.add now id v).resolve token =
      if token = .ephemeral id then .ok v else registry.resolve token := by
  cases token with
  | ephemeral other =>
    simp only [resolve, find?, get?_add, Token.ephemeral.injEq]
    split <;> rfl
  | persistent name => exact (if_neg Token.noConfusion).symm

/-! ## Names -/

theorem named?_bind (name other : String) (v : Value) :
    (registry.bind name v).named? other = if other = name then some v else registry.named? other :=
  Table.get?_insert _ _ _ _

private theorem tables_drawFreeName (bound : Nat) (registry : Registry) :
    (registry.drawFreeName bound).2.ephemeral = registry.ephemeral ∧
      (registry.drawFreeName bound).2.persistent = registry.persistent := by
  induction bound generalizing registry with
  | zero => exact ⟨rfl, rfl⟩
  | succ bound ih =>
    rw [drawFreeName]
    split
    · exact ih registry.drawName.2
    · exact ⟨rfl, rfl⟩

@[simp] theorem ephemeral_drawFreeName (bound : Nat) :
    (registry.drawFreeName bound).2.ephemeral = registry.ephemeral :=
  (tables_drawFreeName bound registry).1

@[simp] theorem persistent_drawFreeName (bound : Nat) :
    (registry.drawFreeName bound).2.persistent = registry.persistent :=
  (tables_drawFreeName bound registry).2

@[simp] theorem named?_drawFreeName (bound : Nat) (name : String) :
    (registry.drawFreeName bound).2.named? name = registry.named? name := by
  rw [named?, named?, persistent_drawFreeName]

/-- What a promotion does: one name is bound to a value, and the entries stay as they are. -/
structure Binds (registry promoted : Registry) (name : String) (v : Value) : Prop where
  ephemeral_eq : promoted.ephemeral = registry.ephemeral
  named?_eq : ∀ other,
    promoted.named? other = if other = name then some v else registry.named? other

theorem Binds.resolve_eq {promoted : Registry} {name : String} {v : Value}
    (h : registry.Binds promoted name v) (token : Token) :
    promoted.resolve token =
      if token = .persistent name then .ok v else registry.resolve token := by
  cases token with
  | ephemeral id =>
    simp only [resolve, find?, h.ephemeral_eq, reduceCtorEq, if_false]
  | persistent other =>
    simp only [resolve, h.named?_eq, Token.persistent.injEq]
    split <;> rfl

/-- A promotion binds the value that was there, and leaves the counter alone. -/
theorem binds_of_promote {id : Uuid} {name : String} {promoted : Registry}
    (h : registry.promote id name = .ok promoted) :
    promoted.nextName = registry.nextName ∧
      ∃ v, registry.find? id = some v ∧ registry.Binds promoted name v := by
  rw [promote] at h
  cases hfind : registry.find? id with
  | none => rw [hfind] at h; cases h
  | some v =>
    rw [hfind] at h
    cases h
    exact ⟨rfl, v, rfl, rfl, fun other ↦ named?_bind _ _ _⟩

/-- A promotion under an automatic name binds the value that was there, however many names were
drawn before a free one was found. -/
theorem binds_of_promoteAuto {id : Uuid} {name : String} {promoted : Registry}
    (h : registry.promoteAuto id = .ok (name, promoted)) :
    ∃ v, registry.find? id = some v ∧ registry.Binds promoted name v := by
  rw [promoteAuto] at h
  cases hfind : registry.find? id with
  | none => rw [hfind] at h; cases h
  | some v =>
    rw [hfind] at h
    cases h
    refine ⟨v, rfl, ephemeral_drawFreeName _, fun other ↦ ?_⟩
    rw [named?_bind, named?_drawFreeName]

/-! ## Ageing -/

/-- An entry is fresh until the clock has passed its lifetime, in numbers without bound. -/
theorem fresh_iff (now : UInt64) (entry : Entry) :
    Fresh now entry ↔ now.toNat ≤ entry.createdAt.toNat + lifetime.toNat := by
  rw [Fresh, age, UInt64.le_iff_toNat_le]
  split
  · next hle =>
    rw [UInt64.toNat_sub_of_le _ _ hle]
    omega
  · next hlt =>
    rw [UInt64.le_iff_toNat_le] at hlt
    exact iff_of_true (Nat.zero_le _) (by omega)

theorem get?_sweep_eq_some_iff {now : UInt64} {id : Uuid} {entry : Entry} :
    (registry.sweep now).2.ephemeral.get? id = some entry ↔
      registry.ephemeral.get? id = some entry ∧
        now.toNat ≤ entry.createdAt.toNat + lifetime.toNat := by
  rw [sweep, Table.get?_filter, decide_eq_true_iff, fresh_iff]

/-- A sweep gives no token a value. -/
theorem resolve_of_sweep {now : UInt64} {token : Token} {v : Value}
    (h : (registry.sweep now).2.resolve token = .ok v) : registry.resolve token = .ok v := by
  cases token with
  | ephemeral id =>
    rw [resolve_ephemeral_eq_ok_iff, find?_eq_some_iff] at h ⊢
    obtain ⟨clock, hget⟩ := h
    exact ⟨clock, (get?_sweep_eq_some_iff.mp hget).1⟩
  | persistent name => exact h

/-- A sweep counts the identifiers that it makes unresolvable, which is also by how much the
registry shrinks. -/
theorem sweep_counts (registry : Registry) (now : UInt64) :
    (∃ ids : List Uuid, ids.Nodup ∧
      (∀ id, id ∈ ids ↔
        (registry.find? id).isSome ∧ (registry.sweep now).2.find? id = none) ∧
      (registry.sweep now).1 = ids.length) ∧
    (registry.sweep now).1 + (registry.sweep now).2.ephemeral.size = registry.ephemeral.size := by
  obtain ⟨ids, hnodup, hmem, hlength⟩ :=
    registry.ephemeral.exists_dropped_keys fun row ↦ decide (Fresh now row.2)
  have hcount : (registry.sweep now).1 = ids.length := by
    rw [sweep, ← hlength, Nat.add_sub_cancel]
  refine ⟨⟨ids, hnodup, fun id ↦ ?_, hcount⟩, ?_⟩
  · rw [hmem, find?, find?, Option.isSome_map, Option.map_eq_none_iff]
    rfl
  · rw [hcount]
    exact hlength

end Registry

end ObjectConsole
