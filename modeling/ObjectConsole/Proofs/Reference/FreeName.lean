import ObjectConsole.Proofs.Reference.AutomaticName
import ObjectConsole.Proofs.Reference.History

/-!
# The next free name

Names are drawn until one is free, and nothing in this search says when to stop looking (`Search`).
It ends nevertheless. Among the next draws, one more of them than there are names, some name is
free, so the search passes at most as many candidates as there are names, and the bound that it is
run with is never what ends it (`Search.drawFreeName_eq`). Which names are bound, and where the
counter stands, does not matter: it may go around on the way.

Seen from the counter, the name that is taken is the first free one. `distance` counts how many
draws away a number is, in the order in which the counter comes by.
-/

namespace ObjectConsole.Registry

open Store

/-! ## The search -/

/-- The search for a free name, with the number of candidates that it draws and where it ends. -/
inductive Search : Registry → Nat → String × Registry → Prop
  | found {registry : Registry} (hfree : registry.named? registry.drawName.1 = none) :
    Search registry 1 registry.drawName
  | passed {registry : Registry} {count : Nat} {found : String × Registry}
      (htaken : (registry.named? registry.drawName.1).isSome)
      (h : Search registry.drawName.2 count found) : Search registry (count + 1) found

variable {registry : Registry} {count : Nat} {found : String × Registry}

theorem Search.unique {count' : Nat} {found' : String × Registry} (h : Search registry count found)
    (h' : Search registry count' found') : count = count' ∧ found = found' := by
  induction h generalizing count' found' with
  | found hfree =>
    cases h' with
    | found => exact ⟨rfl, rfl⟩
    | passed htaken => rw [hfree] at htaken; cases htaken
  | passed htaken _ ih =>
    cases h' with
    | found hfree => rw [hfree] at htaken; cases htaken
    | passed _ h' =>
      obtain ⟨hcount, hfound⟩ := ih h'
      exact ⟨congrArg (· + 1) hcount, hfound⟩

/-- A bound that the search keeps within makes no difference to it. -/
theorem Search.drawFreeName_eq {bound : Nat} (h : Search registry count found)
    (hle : count ≤ bound + 1) : registry.drawFreeName bound = found := by
  induction h generalizing bound with
  | @found registry hfree =>
    have hstop : ¬(registry.drawName.2.named? registry.drawName.1).isSome := by
      intro htaken
      rw [show registry.drawName.2.named? registry.drawName.1 = none from hfree] at htaken
      cases htaken
    cases bound with
    | zero => rfl
    | succ bound => rw [drawFreeName, if_neg hstop]
  | @passed registry count found htaken h ih =>
    have hpos : 0 < count := by cases h <;> exact Nat.succ_pos _
    obtain ⟨bound, rfl⟩ := Nat.exists_eq_add_of_lt (show 0 < bound by omega)
    have hgoes : (registry.drawName.2.named? registry.drawName.1).isSome := htaken
    rw [Nat.zero_add, drawFreeName, if_pos hgoes]
    exact ih (by omega)

theorem search_numbered {passed : Nat}
    (htaken : ∀ draws < passed, (registry.named? (registry.numbered draws)).isSome)
    (hfree : registry.named? (registry.numbered passed) = none) :
    Search registry (passed + 1) (registry.numbered passed,
      { registry with nextName := registry.nextName + UInt64.ofNat passed + 1 }) := by
  induction passed generalizing registry with
  | zero =>
    rw [← fst_drawName] at hfree
    have hfound : (registry.numbered 0,
        { registry with nextName := registry.nextName + UInt64.ofNat 0 + 1 }) =
        registry.drawName := by
      rw [← fst_drawName, show UInt64.ofNat 0 = 0 from rfl, UInt64.add_zero]
      rfl
    rw [hfound]
    exact .found hfree
  | succ passed ih =>
    have hfirst := htaken 0 (Nat.succ_pos _)
    rw [← fst_drawName] at hfirst
    have hrest := @ih registry.drawName.2
      (fun draws hdraws ↦ by
        rw [numbered_snd_drawName]
        exact htaken (draws + 1) (Nat.succ_lt_succ hdraws))
      (by rw [numbered_snd_drawName]; exact hfree)
    rw [numbered_snd_drawName, nextName_snd_drawName_add] at hrest
    exact .passed hfirst hrest

/-! ## The first free name -/

/-- How many draws it takes from where the counter stands until it stands at `k`. -/
def distance (registry : Registry) (k : UInt64) : Nat :=
  (k - registry.nextName).toNat

theorem numbered_distance (registry : Registry) (k : UInt64) :
    registry.numbered (registry.distance k) = autoName k := by
  rw [numbered, distance, UInt64.ofNat_toNat, UInt64.add_comm, UInt64.sub_add_cancel]

theorem distance_add {draws : Nat} (h : draws < UInt64.size) :
    registry.distance (registry.nextName + UInt64.ofNat draws) = draws := by
  rw [distance, UInt64.add_comm, UInt64.add_sub_cancel, UInt64.toNat_ofNat_of_lt' h]

/-- Among the names of the counter there is a free one that is nearest, and it is no farther away
than there are names. -/
theorem exists_nearest_free (h : registry.persistent.size < UInt64.size) :
    ∃ k, registry.named? (autoName k) = none ∧ registry.distance k ≤ registry.persistent.size ∧
      ∀ j, registry.distance j < registry.distance k → (registry.named? (autoName j)).isSome := by
  have hfree := registry.named?_fst_drawFreeName h
  obtain ⟨passed, hle, htaken, hname, -⟩ :=
    registry.exists_drawFreeName_eq registry.persistent.size
  rw [hname] at hfree
  refine ⟨registry.nextName + UInt64.ofNat passed, hfree, ?_, fun j hj ↦ ?_⟩
  · rwa [distance_add (Nat.lt_of_le_of_lt hle h)]
  · rw [distance_add (Nat.lt_of_le_of_lt hle h)] at hj
    rw [← numbered_distance]
    exact htaken _ hj

/-- The search ends at the nearest free name, with the counter behind it. -/
theorem search_iff {k : UInt64} (hfree : registry.named? (autoName k) = none)
    (htaken : ∀ j, registry.distance j < registry.distance k →
      (registry.named? (autoName j)).isSome) :
    Search registry count found ↔ count = registry.distance k + 1 ∧
      found = (autoName k, { registry with nextName := k + 1 }) := by
  have hsearch : Search registry (registry.distance k + 1)
      (autoName k, { registry with nextName := k + 1 }) := by
    have hnumbered := @search_numbered registry (registry.distance k)
      (fun draws hdraws ↦ by
        have hlt : draws < UInt64.size :=
          Nat.lt_trans hdraws (UInt64.toNat_lt_size (k - registry.nextName))
        have hj := htaken (registry.nextName + UInt64.ofNat draws)
        rw [distance_add hlt] at hj
        exact hj hdraws)
      (by rwa [numbered_distance])
    rwa [numbered_distance, distance, UInt64.ofNat_toNat, UInt64.add_comm registry.nextName,
      UInt64.sub_add_cancel] at hnumbered
  constructor
  · exact fun h ↦ h.unique hsearch
  · rintro ⟨rfl, rfl⟩
    exact hsearch

theorem autoName_eq (k : UInt64) : autoName k = "o" ++ toString k.toNat := by
  rw [autoName, Text.Decimal.ofNat, Nat.toString_eq_ofList_toDigits]

/-- **The next free name is taken.** Whatever names are bound, as long as there are fewer than the
counter has values, the search for a name ends, after at most one candidate more than there are
names, at the first free name in the order in which the counter comes by. That name is bound to the
value that is promoted, no other name changes and no entry does, and the counter stands just behind
it. An identifier without a value is refused, and everything stays as it is. -/
theorem promoteAuto_takes_next_free (h : registry.persistent.size < UInt64.size) (id : Uuid) :
    (∀ v, registry.find? id = some v →
      ∃ k promoted, registry.named? ("o" ++ toString k.toNat) = none ∧
        (∀ j, registry.distance j < registry.distance k →
          (registry.named? ("o" ++ toString j.toNat)).isSome) ∧
        registry.distance k + 1 ≤ registry.persistent.size + 1 ∧
        (∀ count found, Search registry count found ↔ count = registry.distance k + 1 ∧
          found = ("o" ++ toString k.toNat, { registry with nextName := k + 1 })) ∧
        registry.promoteAuto id = .ok ("o" ++ toString k.toNat, promoted) ∧
        registry.Binds promoted ("o" ++ toString k.toNat) v ∧
        promoted.nextName = k + 1) ∧
    (registry.find? id = none → registry.promoteAuto id = .error ⟨.ephemeral id⟩ ∧
      ∀ clock, Clocked.perform ⟨clock, registry⟩ (.promoteAuto id) =
        (.missing ⟨.ephemeral id⟩, ⟨clock, registry⟩)) := by
  constructor
  · intro v hfind
    obtain ⟨k, hfree, hle, htaken⟩ := exists_nearest_free h
    have hdrawn : registry.drawFreeName registry.persistent.size =
        (autoName k, { registry with nextName := k + 1 }) :=
      ((search_iff hfree htaken).mpr ⟨rfl, rfl⟩).drawFreeName_eq (Nat.succ_le_succ hle)
    simp only [← autoName_eq]
    refine ⟨k, { registry with nextName := k + 1 }.bind (autoName k) v, hfree, htaken,
      Nat.succ_le_succ hle, fun count found ↦ search_iff hfree htaken, ?_,
      ⟨rfl, fun other ↦ named?_bind _ _ _⟩, rfl⟩
    rw [promoteAuto, hfind]
    simp only [hdrawn]
  · intro hnone
    have herror : registry.promoteAuto id = .error ⟨.ephemeral id⟩ := by rw [promoteAuto, hnone]
    exact ⟨herror, fun clock ↦ by rw [Clocked.perform, herror]⟩

/-- A registry whose counter is about to go around, with the next two names taken. -/
def crowded : Registry where
  ephemeral := (∅ : Table Uuid Entry).insert (Uuid.ofNat 0) ⟨0, .bool true⟩
  persistent := ((∅ : Table String Value).insert "o18446744073709551615" .null).insert "o0" .null
  nextName := 18446744073709551615

theorem promoteAuto_takes_next_free_around :
    crowded.persistent.size < UInt64.size ∧
      crowded.find? (Uuid.ofNat 0) = some (.bool true) ∧
      ∃ promoted, crowded.promoteAuto (Uuid.ofNat 0) = .ok ("o1", promoted) ∧
        promoted.nextName = 2 ∧ promoted.named? "o1" = some (.bool true) ∧
        promoted.named? "o0" = some .null := by
  have hsize : crowded.persistent.size < UInt64.size := by decide
  have hfind : crowded.find? (Uuid.ofNat 0) = some (.bool true) := by decide
  obtain ⟨hfound, -⟩ := promoteAuto_takes_next_free hsize (Uuid.ofNat 0)
  obtain ⟨k, promoted, -, -, -, -, hpromoted, hbinds, hcounter⟩ := hfound _ hfind
  have hdrawn : (crowded.promoteAuto (Uuid.ofNat 0)).toOption.map Prod.fst = some "o1" := by
    decide
  rw [hpromoted] at hdrawn
  have hname : "o" ++ toString k.toNat = "o1" := Option.some.inj hdrawn
  have hk : k = 1 := autoName_injective (by rw [autoName_eq, hname]; decide)
  rw [hname] at hpromoted hbinds
  refine ⟨hsize, hfind, promoted, hpromoted, by rw [hcounter, hk]; rfl, ?_, ?_⟩
  · rw [hbinds.named?_eq, if_pos rfl]
  · rw [hbinds.named?_eq, if_neg (by decide)]
    decide

end ObjectConsole.Registry
