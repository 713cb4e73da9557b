import Mathlib.Data.List.Forall2

/-!
# Lists in step

Arguments are coerced and elements are rendered one by one, and the first failure decides. Such a
run over a list succeeds exactly if it succeeds at every place, so what it comes to is said by
`List.Forall₂`: two lists of one length, related place by place.
-/

namespace ObjectConsole

variable {α β γ : Type}

theorem mapM_eq_ok_iff {ε : Type} {f : α → Except ε β} {xs : List α} {ys : List β} :
    xs.mapM f = .ok ys ↔ List.Forall₂ (fun x y ↦ f x = .ok y) xs ys := by
  induction xs generalizing ys with
  | nil =>
    rw [List.mapM_nil, List.forall₂_nil_left_iff]
    exact ⟨fun h ↦ (Except.ok.inj h).symm, fun h ↦ congrArg Except.ok h.symm⟩
  | cons x xs ih =>
    rw [List.mapM_cons, List.forall₂_cons_left_iff]
    cases hx : f x with
    | error e => exact ⟨nofun, fun ⟨_, _, h, _⟩ ↦ nomatch h⟩
    | ok y =>
      cases hxs : xs.mapM f with
      | error e =>
        refine ⟨nofun, ?_⟩
        rintro ⟨_, rest, -, hrest, -⟩
        rw [← ih, hxs] at hrest
        cases hrest
      | ok rest =>
        constructor
        · intro h
          cases h
          exact ⟨y, rest, rfl, ih.mp hxs, rfl⟩
        · rintro ⟨_, rest', hy, hrest, rfl⟩
          cases hy
          cases hxs.symm.trans (ih.mpr hrest)
          rfl

theorem mapM_eq_some_iff {f : α → Option β} {xs : List α} {ys : List β} :
    xs.mapM f = some ys ↔ List.Forall₂ (fun x y ↦ f x = some y) xs ys := by
  induction xs generalizing ys with
  | nil =>
    rw [List.mapM_nil, List.forall₂_nil_left_iff]
    exact ⟨fun h ↦ (Option.some.inj h).symm, fun h ↦ congrArg some h.symm⟩
  | cons x xs ih =>
    simp only [List.mapM_cons, List.forall₂_cons_left_iff, Option.bind_eq_bind,
      Option.bind_eq_some_iff, Option.pure_def, Option.some.injEq, ih]
    constructor
    · rintro ⟨y, hy, rest, hrest, rfl⟩
      exact ⟨y, rest, hy, hrest, rfl⟩
    · rintro ⟨y, rest, hy, hrest, rfl⟩
      exact ⟨y, hy, rest, hrest, rfl⟩

theorem exists_forall₂ {R : α → β → Prop} {xs : List α} (h : ∀ x ∈ xs, ∃ y, R x y) :
    ∃ ys, List.Forall₂ R xs ys := by
  induction xs with
  | nil => exact ⟨[], .nil⟩
  | cons x xs ih =>
    rw [List.forall_mem_cons] at h
    obtain ⟨y, hy⟩ := h.1
    obtain ⟨ys, hys⟩ := ih h.2
    exact ⟨y :: ys, .cons hy hys⟩

/-- A step in between can be taken at every place or for the whole list. -/
theorem forall₂_exists_map_iff {R : α → γ → Prop} {f : γ → β} {xs : List α} {ys : List β} :
    List.Forall₂ (fun x y ↦ ∃ z, R x z ∧ y = f z) xs ys ↔
      ∃ zs, List.Forall₂ R xs zs ∧ ys = zs.map f := by
  induction xs generalizing ys with
  | nil => simp [List.forall₂_nil_left_iff]
  | cons x xs ih =>
    simp only [List.forall₂_cons_left_iff, ih]
    constructor
    · rintro ⟨_, _, ⟨z, hz, rfl⟩, ⟨zs, hzs, rfl⟩, rfl⟩
      exact ⟨z :: zs, ⟨z, zs, hz, hzs, rfl⟩, rfl⟩
    · rintro ⟨_, ⟨z, zs, hz, hzs, rfl⟩, rfl⟩
      exact ⟨f z, zs.map f, ⟨z, hz, rfl⟩, ⟨zs, hzs, rfl⟩, rfl⟩

theorem forall₂_congr_left {R S : α → β → Prop} {xs : List α} {ys : List β}
    (h : ∀ x ∈ xs, ∀ y, R x y ↔ S x y) : List.Forall₂ R xs ys ↔ List.Forall₂ S xs ys := by
  simp only [List.forall₂_iff_zip]
  refine and_congr_right fun _ ↦ ⟨fun hzip x y hmem ↦ ?_, fun hzip x y hmem ↦ ?_⟩
  · exact (h x (List.of_mem_zip hmem).1 y).mp (hzip hmem)
  · exact (h x (List.of_mem_zip hmem).1 y).mpr (hzip hmem)

/-- Two lists in step with a third are in step with each other. -/
theorem exists_of_forall₂_of_mem {R : α → γ → Prop} {S : β → γ → Prop} {xs : List α}
    {ys : List β} {zs : List γ} (h : List.Forall₂ R xs zs) (h' : List.Forall₂ S ys zs) {y : β}
    (hy : y ∈ ys) : ∃ x ∈ xs, ∃ z, R x z ∧ S y z := by
  induction h generalizing ys with
  | nil => rw [List.forall₂_nil_right_iff.mp h'] at hy; cases hy
  | cons hx _ ih =>
    obtain ⟨y', ys', hy', hys', rfl⟩ := List.forall₂_cons_right_iff.mp h'
    rcases List.mem_cons.mp hy with rfl | hmem
    · exact ⟨_, List.mem_cons_self, _, hx, hy'⟩
    · obtain ⟨x, hxs, z, hxz, hyz⟩ := ih hys' hmem
      exact ⟨x, List.mem_cons_of_mem _ hxs, z, hxz, hyz⟩

/-- Where each place leaves one choice, so does the list. -/
theorem eq_of_forall₂ {R : α → β → Prop} {xs : List α} {ys ys' : List β}
    (h : List.Forall₂ (fun x y ↦ ∀ y', R x y' → y' = y) xs ys) (h' : List.Forall₂ R xs ys') :
    ys' = ys := by
  induction h generalizing ys' with
  | nil => exact List.forall₂_nil_left_iff.mp h'
  | cons hxy _ ih =>
    obtain ⟨y', rest, hy, hrest, rfl⟩ := List.forall₂_cons_left_iff.mp h'
    rw [hxy y' hy, ih hrest]

end ObjectConsole
