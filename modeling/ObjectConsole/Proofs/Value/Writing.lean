import ObjectConsole.Proofs.Store.Traversal
import ObjectConsole.Value.Description

/-!
# What rendering writes

Rendering works on the text written so far and on the path of the arrays it is inside of. All its
stretches are disciplined: a stretch appends a text that the path decides on, and leaves the path as
it found it (`Writes`). An array puts itself on the path and takes itself off again, so an element
is rendered inside the same arrays whatever its earlier siblings lead to.
-/

namespace ObjectConsole.Value

/-- A stretch of rendering inside the arrays `path` appends one of the texts, and leaves the path as
it found it. Where there is no such text, it panics. -/
def Writes (stretch : RenderM Unit) (path : List ArrayRef) (texts : String → Prop) : Prop :=
  ∀ written after, stretch.run ⟨written, path⟩ = .ok ((), after) ↔
    ∃ s, texts s ∧ after = ⟨written ++ s, path⟩

variable {path : List ArrayRef} {texts texts' : String → Prop} {stretch stretch' : RenderM Unit}

theorem run_bind_eq_ok_iff {α : Type} {first : RenderM α} {rest : α → RenderM Unit}
    {before after : Progress} : (first >>= rest).run before = .ok ((), after) ↔
      ∃ x between,
        first.run before = .ok (x, between) ∧ (rest x).run between = .ok ((), after) := by
  rw [StateT.run_bind]
  cases hfirst : first.run before with
  | error message => exact ⟨nofun, fun ⟨_, _, h, _⟩ ↦ nomatch h⟩
  | ok reached =>
    constructor
    · exact fun h ↦ ⟨reached.1, reached.2, rfl, h⟩
    · rintro ⟨_, _, h, hrest⟩
      cases h
      exact hrest

theorem Writes.congr (h : Writes stretch path texts) (hiff : ∀ s, texts s ↔ texts' s) :
    Writes stretch path texts' := by
  intro written after
  simp only [h written after, hiff]

theorem writes_pure : Writes (pure ()) path (· = "") := by
  intro written after
  rw [exists_eq_left, String.append_empty]
  exact ⟨fun h ↦ by cases h; rfl, fun h ↦ by rw [h]; rfl⟩

theorem writes_write (s : String) : Writes (write s) path (· = s) := by
  intro written after
  rw [exists_eq_left]
  exact ⟨fun h ↦ by cases h; rfl, fun h ↦ by rw [h]; rfl⟩

theorem Writes.append (h : Writes stretch path texts) (h' : Writes stretch' path texts') :
    Writes (do stretch; stretch') path fun s ↦ ∃ t, texts t ∧ ∃ u, texts' u ∧ s = t ++ u := by
  intro written after
  rw [run_bind_eq_ok_iff]
  constructor
  · rintro ⟨_, between, hfirst, hrest⟩
    obtain ⟨t, ht, rfl⟩ := (h written between).mp hfirst
    obtain ⟨u, hu, rfl⟩ := (h' (written ++ t) after).mp hrest
    exact ⟨t ++ u, ⟨t, ht, u, hu, rfl⟩, by rw [String.append_assoc]⟩
  · rintro ⟨_, ⟨t, ht, u, hu, rfl⟩, rfl⟩
    refine ⟨(), _, (h written _).mpr ⟨t, ht, rfl⟩, (h' (written ++ t) _).mpr ⟨u, hu, ?_⟩⟩
    rw [String.append_assoc]

/-- An array that is entered is left again. -/
theorem Writes.inside {ref : ArrayRef} (h : Writes stretch (ref :: path) texts) :
    Writes (do enter ref; stretch; leave) path texts := by
  intro written after
  rw [run_bind_eq_ok_iff]
  constructor
  · rintro ⟨_, _, henter, hrest⟩
    cases henter
    obtain ⟨_, between, hstretch, hleave⟩ := run_bind_eq_ok_iff.mp hrest
    obtain ⟨s, hs, rfl⟩ := (h written between).mp hstretch
    cases hleave
    exact ⟨s, hs, rfl⟩
  · rintro ⟨s, hs, rfl⟩
    refine ⟨(), _, rfl, run_bind_eq_ok_iff.mpr ⟨(), _, (h written _).mpr ⟨s, hs, rfl⟩, rfl⟩⟩

/-- A stretch between two fixed texts. -/
theorem Writes.between (h : Writes stretch path texts) (front behind : String) :
    Writes (do write front; stretch; write behind) path
      fun s ↦ ∃ t, texts t ∧ s = front ++ t ++ behind := by
  refine ((writes_write front).append (h.append (writes_write behind))).congr fun s ↦ ?_
  constructor
  · rintro ⟨_, rfl, _, ⟨t, ht, _, rfl, rfl⟩, rfl⟩
    exact ⟨t, ht, String.append_assoc.symm⟩
  · rintro ⟨t, ht, rfl⟩
    exact ⟨front, rfl, _, ⟨t, ht, behind, rfl, rfl⟩, String.append_assoc⟩

/-! ## Elements -/

/-- A rendered element. -/
def span (rendered : String) : String :=
  "<span class=\"array-element\">" ++ rendered ++ "</span>"

/-- Rendered elements from an index on. -/
def listed (index : Nat) : List String → String
  | [] => ""
  | rendered :: rest => (if 0 < index then ", " else "") ++ span rendered ++ listed (index + 1) rest

theorem listed_zero (rendered : List String) :
    listed 0 rendered = ", ".intercalate (rendered.map span) := by
  have hrest (s : String) (rest : List String) (index : Nat) :
      s ++ listed (index + 1) rest = ", ".intercalate (s :: rest.map span) := by
    induction rest generalizing s index with
    | nil => simp [listed]
    | cons t rest ih =>
      rw [listed, if_pos (Nat.succ_pos index), List.map_cons, String.intercalate_cons_cons,
        ← ih (span t) (index + 1)]
      simp only [String.append_assoc]
  cases rendered with
  | nil => rfl
  | cons s rest => rw [listed, if_neg (Nat.lt_irrefl 0), String.empty_append, List.map_cons, hrest]

theorem Writes.element (h : Writes stretch path texts) (index : Nat) :
    Writes (writeElement stretch index) path
      fun s ↦ ∃ t, texts t ∧ s = (if 0 < index then ", " else "") ++ span t := by
  have hspan := h.between "<span class=\"array-element\">" "</span>"
  rw [writeElement]
  split_ifs with hindex
  · refine ((writes_write ", ").append hspan).congr fun s ↦ ?_
    constructor
    · rintro ⟨_, rfl, _, ⟨t, ht, rfl⟩, rfl⟩
      exact ⟨t, ht, rfl⟩
    · rintro ⟨t, ht, rfl⟩
      exact ⟨_, rfl, _, ⟨t, ht, rfl⟩, rfl⟩
  · simp only [String.empty_append]
    exact hspan

theorem writes_elements {render : Value → RenderM Unit} {texts : Value → String → Prop}
    (h : ∀ v, Writes (render v) path (texts v)) (elements : List Value) (index : Nat) :
    Writes ((elements.zipIdx index).forM fun (v, index) ↦ writeElement (render v) index) path
      fun s ↦ ∃ rendered, List.Forall₂ texts elements rendered ∧ s = listed index rendered := by
  induction elements generalizing index with
  | nil => exact writes_pure.congr fun s ↦ by simp [listed]
  | cons v elements ih =>
    rw [List.zipIdx_cons, List.forM]
    refine (((h v).element index).append (ih (index + 1))).congr fun s ↦ ?_
    simp only [List.forall₂_cons_left_iff]
    constructor
    · rintro ⟨_, ⟨t, ht, rfl⟩, _, ⟨rest, hrest, rfl⟩, rfl⟩
      exact ⟨_, ⟨t, rest, ht, hrest, rfl⟩, rfl⟩
    · rintro ⟨_, ⟨t, rest, ht, hrest, rfl⟩, rfl⟩
      exact ⟨_, ⟨t, ht, rfl⟩, _, ⟨rest, hrest, rfl⟩, rfl⟩

variable {heap : Heap} {ref : ArrayRef} {room : Nat} {written : String}

theorem renderInto_array :
    (renderInto heap (room + 1) (.array ref)).run ⟨written, path⟩ =
      (if ref ∈ path then write truncated else do
        enter ref
        (do
          write "["
          (heap.elements ref).zipIdx.forM fun (v, index) ↦
            writeElement (renderInto heap room v) index
          write "]")
        leave : RenderM Unit).run ⟨written, path⟩ := by
  rw [renderInto, StateT.run_bind, StateT.run_get]
  simp only [pure_bind, bind_assoc]

theorem writes_truncated (hmem : ref ∈ path) :
    Writes (renderInto heap (room + 1) (.array ref)) path (· = truncated) := by
  intro written after
  rw [renderInto_array, if_pos hmem]
  exact writes_write truncated written after

theorem writes_array (hnew : ref ∉ path) {texts : Value → String → Prop}
    (h : ∀ v, Writes (renderInto heap room v) (ref :: path) (texts v)) :
    Writes (renderInto heap (room + 1) (.array ref)) path
      fun s ↦ ∃ rendered, List.Forall₂ texts (heap.elements ref) rendered ∧
        s = "[" ++ ", ".intercalate (rendered.map span) ++ "]" := by
  have hinside := ((writes_elements h (heap.elements ref) 0).between "[" "]").inside
  intro written after
  rw [renderInto_array, if_neg hnew, hinside written after]
  simp only [listed_zero]
  constructor
  · rintro ⟨_, ⟨_, ⟨rendered, hrendered, rfl⟩, rfl⟩, rfl⟩
    exact ⟨_, ⟨rendered, hrendered, rfl⟩, rfl⟩
  · rintro ⟨_, ⟨rendered, hrendered, rfl⟩, rfl⟩
    exact ⟨_, ⟨_, ⟨rendered, hrendered, rfl⟩, rfl⟩, rfl⟩

theorem render_eq_ok_iff_of_writes {v : Value} (h : Writes (renderInto heap maxDepth v) [] texts)
    {s : String} : v.render heap = .ok s ↔ texts s := by
  have hwrites (after : Progress) := h "" after
  rw [render]
  cases hrun : (renderInto heap maxDepth v).run ⟨"", []⟩ with
  | error message =>
    simp only [hrun] at hwrites
    refine ⟨nofun, fun hs ↦ ?_⟩
    cases (hwrites ⟨s, []⟩).mpr ⟨s, hs, by rw [String.empty_append]⟩
  | ok reached =>
    obtain ⟨s', hs', hafter⟩ := (hwrites reached.2).mp hrun
    constructor
    · intro h
      cases h
      rwa [hafter, String.empty_append]
    · intro hs
      have hreached := (hwrites ⟨s, []⟩).mpr ⟨s, hs, by rw [String.empty_append]⟩
      rw [hrun] at hreached
      cases hreached
      rfl

end ObjectConsole.Value
