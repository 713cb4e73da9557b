import ObjectConsole.Operation.Catalog
import Mathlib.Data.List.Induction
import Mathlib.Tactic.SplitIfs

/-!
# Finding types and operations

A catalog is built by registrations, of which the last under a name counts, and a type's operations
are searched in the order of declaration, of which the first that matches counts. Both are said here
as a place in the list that was given: what stands behind the entry, or in front of the operation,
does not answer to the request.
-/

namespace ObjectConsole

namespace Catalog

variable {entries : List TypeEntry} {typeName : String} {entry : TypeEntry}

theorem ofTypes_append_singleton (entries : List TypeEntry) (entry : TypeEntry) :
    ofTypes (entries ++ [entry]) = (ofTypes entries).register entry :=
  List.foldl_append

theorem mem_of_lookup? {catalog : Catalog} (h : catalog.lookup? typeName = some entry) :
    entry ∈ catalog.entries :=
  List.mem_of_find?_eq_some h

theorem name_of_lookup? {catalog : Catalog} (h : catalog.lookup? typeName = some entry) :
    entry.name = typeName := by
  simpa using List.find?_some h

/-- The entry of a type is the one that was registered last. -/
theorem exists_of_lookup?_ofTypes (h : (ofTypes entries).lookup? typeName = some entry) :
    ∃ before after, entries = before ++ entry :: after ∧ entry.name = typeName ∧
      ∀ later ∈ after, later.name ≠ typeName := by
  induction entries using List.reverseRecOn with
  | nil => cases h
  | append_singleton entries last ih =>
    rw [ofTypes_append_singleton, lookup?_register] at h
    split_ifs at h with hname
    · cases h
      exact ⟨entries, [], rfl, hname.symm, by simp⟩
    · obtain ⟨before, after, rfl, hentry, hafter⟩ := ih h
      refine ⟨before, after ++ [last], by simp, hentry, fun later hlater ↦ ?_⟩
      rcases List.mem_append.mp hlater with hlater | hlater
      · exact hafter later hlater
      · rw [List.mem_singleton.mp hlater]
        exact Ne.symm hname

end Catalog

/-- The operation that is found is the first that matches. -/
theorem TypeEntry.exists_of_findOperation? {entry : TypeEntry} {name : String}
    {parameters : List String} {operation : Operation}
    (h : entry.findOperation? name parameters = some operation) :
    ∃ before after, entry.operations = before ++ operation :: after ∧
      operation.Matches name parameters ∧
      ∀ earlier ∈ before, ¬earlier.Matches name parameters := by
  obtain ⟨hmatches, before, after, hsplit, hbefore⟩ := List.find?_eq_some_iff_append.mp h
  exact ⟨before, after, hsplit, of_decide_eq_true hmatches,
    fun earlier hearlier ↦ by simpa using hbefore earlier hearlier⟩

end ObjectConsole
