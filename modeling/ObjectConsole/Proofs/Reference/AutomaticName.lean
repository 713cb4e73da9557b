import Mathlib.Data.List.Nodup
import Mathlib.Data.List.Perm.Subperm
import ObjectConsole.Proofs.Reference.Registry
import ObjectConsole.Proofs.Text.Decimal

/-!
# Automatic names

Automatic names are the values of a counter, so two draws give the same name only if the counter has
gone around between them (`numbered_inj`). A registry with fewer names than the counter has values
therefore has a free one among the next draws, and the search for it ends at the first
(`named?_fst_drawFreeName`): were all of these draws bound, there would be more bound names than
there are.
-/

namespace ObjectConsole.Registry

open Store Text

theorem autoName_injective {n n' : UInt64} (h : autoName n = autoName n') : n = n' := by
  have hdigits : Decimal.ofNat n.toNat = Decimal.ofNat n'.toNat := by
    have htexts := congrArg String.toList h
    simpa only [autoName, String.toList_append, String.toList_ofList, List.append_cancel_left_eq]
      using htexts
  exact UInt64.toNat_inj.mp (Decimal.ofNat_injective hdigits)

variable (registry : Registry)

/-- The name that is drawn after `draws` others. -/
def numbered (draws : Nat) : String :=
  autoName (registry.nextName + UInt64.ofNat draws)

theorem fst_drawName : registry.drawName.1 = registry.numbered 0 := by
  rw [drawName, numbered]
  simp

theorem nextName_snd_drawName_add (draws : Nat) :
    registry.drawName.2.nextName + UInt64.ofNat draws =
      registry.nextName + UInt64.ofNat (draws + 1) := by
  rw [drawName, UInt64.ofNat_add, UInt64.add_assoc, UInt64.add_comm (UInt64.ofNat draws)]
  rfl

theorem numbered_snd_drawName (draws : Nat) :
    registry.drawName.2.numbered draws = registry.numbered (draws + 1) :=
  congrArg autoName (registry.nextName_snd_drawName_add draws)

theorem numbered_inj {draws draws' : Nat} (h : draws < UInt64.size) (h' : draws' < UInt64.size)
    (heq : registry.numbered draws = registry.numbered draws') : draws = draws' := by
  have hwords := (UInt64.add_right_inj registry.nextName).mp (autoName_injective heq)
  have hnumbers := congrArg UInt64.toNat hwords
  rwa [UInt64.toNat_ofNat_of_lt' h, UInt64.toNat_ofNat_of_lt' h'] at hnumbers

theorem nodup_map_numbered {count : Nat} (h : count ≤ UInt64.size) :
    ((List.range count).map registry.numbered).Nodup := by
  refine List.Nodup.map_on (fun draws hdraws draws' hdraws' heq ↦ ?_) List.nodup_range
  rw [List.mem_range] at hdraws hdraws'
  exact registry.numbered_inj (Nat.lt_of_lt_of_le hdraws h) (Nat.lt_of_lt_of_le hdraws' h) heq

/-- The search for a free name passes the bound ones, and stops at a free one or at the last. -/
theorem exists_drawFreeName_eq (bound : Nat) :
    ∃ passed ≤ bound, (∀ draws < passed, (registry.named? (registry.numbered draws)).isSome) ∧
      (registry.drawFreeName bound).1 = registry.numbered passed ∧
      (registry.named? (registry.numbered passed) = none ∨ passed = bound) := by
  induction bound generalizing registry with
  | zero =>
    exact ⟨0, Nat.le_refl 0, fun draws hdraws ↦ absurd hdraws (Nat.not_lt_zero draws),
      registry.fst_drawName, .inr rfl⟩
  | succ bound ih =>
    rw [drawFreeName]
    split
    · next hbound =>
      obtain ⟨passed, hle, hpassed, hname, hstop⟩ := ih registry.drawName.2
      simp only [numbered_snd_drawName] at hpassed hname hstop
      refine ⟨passed + 1, Nat.succ_le_succ hle, fun draws hdraws ↦ ?_, hname, ?_⟩
      · cases draws with
        | zero => rwa [fst_drawName] at hbound
        | succ draws => exact hpassed draws (Nat.lt_of_succ_lt_succ hdraws)
      · exact hstop.imp id (congrArg (· + 1))
    · next hfree =>
      rw [Bool.not_eq_true, Option.isSome_eq_false_iff, Option.isNone_iff_eq_none,
        fst_drawName] at hfree
      exact ⟨0, Nat.zero_le _, fun draws hdraws ↦ absurd hdraws (Nat.not_lt_zero draws),
        registry.fst_drawName, .inl hfree⟩

/-- Distinct names that are all bound are no more than there are names. -/
theorem length_le_size {names : List String} (hnodup : names.Nodup)
    (hbound : ∀ name ∈ names, (registry.named? name).isSome) :
    names.length ≤ registry.persistent.size := by
  have hsubset : names ⊆ registry.persistent.entries.map Prod.fst := by
    intro name hname
    obtain ⟨v, hv⟩ := Option.isSome_iff_exists.mp (hbound name hname)
    exact List.mem_map_of_mem (Table.get?_eq_some_iff.mp hv)
  have hlength := (hnodup.subperm hsubset).length_le
  rwa [List.length_map] at hlength

/-- **A free name is found**, as long as there are fewer names than the counter has values. -/
theorem named?_fst_drawFreeName (h : registry.persistent.size < UInt64.size) :
    registry.named? (registry.drawFreeName registry.persistent.size).1 = none := by
  obtain ⟨passed, -, hpassed, hname, hfree | hlast⟩ :=
    registry.exists_drawFreeName_eq registry.persistent.size
  · rw [hname, hfree]
  · rw [hname, hlast, ← Option.isNone_iff_eq_none, ← Option.isSome_eq_false_iff,
      ← Bool.not_eq_true]
    intro hsome
    -- then one more name than there are is bound
    have hall : ∀ name ∈ (List.range (registry.persistent.size + 1)).map registry.numbered,
        (registry.named? name).isSome := by
      intro name hmem
      obtain ⟨draws, hdraws, rfl⟩ := List.mem_map.mp hmem
      rcases Nat.lt_or_eq_of_le (Nat.le_of_lt_succ (List.mem_range.mp hdraws)) with hlt | rfl
      · exact hpassed draws (hlast ▸ hlt)
      · exact hsome
    have hlength := registry.length_le_size (registry.nodup_map_numbered h) hall
    rw [List.length_map, List.length_range] at hlength
    exact Nat.not_succ_le_self _ hlength

end ObjectConsole.Registry
