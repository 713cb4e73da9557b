import ObjectConsole.Proofs.Number.PlainText
import ObjectConsole.Proofs.Value.Writing

/-!
# What a rendered value unfolds to

A value that leads to arrays unfolds to a tree, and rendering is meant to write that tree down in
the plain way: a leaf as its text, an array as its elements one by one, each in a span of its own.
The tree of an array that contains itself has no end, so `Unfolds` follows the chain of arrays from
the root and cuts the tree at an array that stands on the chain already, or that would be its
thirty-third. A value unfolds to exactly one such tree, and `render` writes it down
(`render_eq_ok_iff`). What it writes may stand on a page without being escaped again: it is harmless
text, except for the spans of elements, and these are nested as the arrays are (`Rendered`).

Where no chain of arrays is longer than thirty-two, nothing is cut, and the tree is that of the
plain unfolding `Contents`, which knows of no chain. The argument is a bound on the chains that are
still possible (`Within`): it decreases from an array to its elements, so an array whose bound does
not hold of itself any more cannot come back. As the plain unfolding does not see which arrays are
shared, neither does the rendering.
-/

namespace ObjectConsole

open Text Number

namespace Value

/-! ## Trees -/

/-- The text that a value shows which is no array; none when its display panics. -/
def shown? (heap : Heap) : Value → Option String
  | null => some "null"
  | bool b => some (if b then "true" else "false")
  | char c => some (String.ofList [c])
  | int _ n => some (String.ofList n.text)
  | single x => some (String.ofList (x.text .single))
  | double x => some (String.ofList (x.text .double))
  | text s => some s
  | object o => (display heap o).toOption
  | array _ => none

/-- A value with its arrays followed: texts at the leaves, and perhaps arrays that were cut off. -/
inductive Tree where
  | leaf (shown : String)
  | array (elements : List Tree)
  | cut

/-- A tree as it is written down. -/
def Tree.markup : Tree → String
  | leaf shown => Html.escape shown
  | cut => "[...]"
  | array elements =>
    "[" ++ ", ".intercalate (elements.map fun element ↦
      "<span class=\"array-element\">" ++ element.markup ++ "</span>") ++ "]"

theorem Tree.markup_array (elements : List Tree) :
    (array elements).markup =
      "[" ++ ", ".intercalate ((elements.map markup).map span) ++ "]" := by
  rw [markup, List.map_map]
  rfl

/-- The tree that a value unfolds to inside a chain of arrays, given from the inside out. -/
inductive Unfolds (heap : Heap) : List ArrayRef → Value → Tree → Prop
  | leaf {chain : List ArrayRef} {v : Value} {shown : String}
      (hshown : v.shown? heap = some shown) : Unfolds heap chain v (.leaf shown)
  | cut {chain : List ArrayRef} {ref : ArrayRef} (hcut : ref ∈ chain ∨ 32 ≤ chain.length) :
      Unfolds heap chain (.array ref) .cut
  | array {chain : List ArrayRef} {ref : ArrayRef} {trees : List Tree} (hnew : ref ∉ chain)
      (hroom : chain.length < 32) (hlength : (heap.elements ref).length = trees.length)
      (helements : ∀ {v tree}, (v, tree) ∈ (heap.elements ref).zip trees →
        Unfolds heap (ref :: chain) v tree) :
      Unfolds heap chain (.array ref) (.array trees)

/-- The tree that a value unfolds to when no array is cut off. -/
inductive Contents (heap : Heap) : Value → Tree → Prop
  | leaf {v : Value} {shown : String} (hshown : v.shown? heap = some shown) :
      Contents heap v (.leaf shown)
  | array {ref : ArrayRef} {trees : List Tree} (hlength : (heap.elements ref).length = trees.length)
      (helements : ∀ {v tree}, (v, tree) ∈ (heap.elements ref).zip trees → Contents heap v tree) :
      Contents heap (.array ref) (.array trees)

/-- What a value holds: itself, and all that its arrays lead to. -/
inductive Holds (heap : Heap) : Value → Value → Prop
  | self (v : Value) : Holds heap v v
  | element {ref : ArrayRef} {v w : Value} (hmem : v ∈ heap.elements ref) (h : Holds heap v w) :
      Holds heap (.array ref) w

/-- Nested arrays from a value inwards. -/
inductive Chain (heap : Heap) : Value → List ArrayRef → Prop
  | single (ref : ArrayRef) : Chain heap (.array ref) [ref]
  | cons {ref : ArrayRef} {v : Value} {refs : List ArrayRef} (hmem : v ∈ heap.elements ref)
      (h : Chain heap v refs) : Chain heap (.array ref) (ref :: refs)

variable {heap : Heap} {chain : List ArrayRef} {ref : ArrayRef} {v : Value} {tree : Tree}

theorem ne_array_of_shown? {shown : String} (h : v.shown? heap = some shown) (ref : ArrayRef) :
    v ≠ .array ref := by
  rintro rfl
  cases h

theorem unfolds_iff_of_ne_array (hv : ∀ ref, v ≠ .array ref) :
    Unfolds heap chain v tree ↔ ∃ shown, v.shown? heap = some shown ∧ tree = .leaf shown := by
  constructor
  · intro h
    cases h with
    | leaf hshown => exact ⟨_, hshown, rfl⟩
    | cut hcut => exact absurd rfl (hv _)
    | array hnew hroom hlength helements => exact absurd rfl (hv _)
  · rintro ⟨shown, hshown, rfl⟩
    exact .leaf hshown

theorem unfolds_array_iff :
    Unfolds heap chain (.array ref) tree ↔
      ((ref ∈ chain ∨ 32 ≤ chain.length) ∧ tree = .cut) ∨
      ((ref ∉ chain ∧ chain.length < 32) ∧
        ∃ trees, List.Forall₂ (Unfolds heap (ref :: chain)) (heap.elements ref) trees ∧
          tree = .array trees) := by
  constructor
  · intro h
    cases h with
    | leaf hshown => cases hshown
    | cut hcut => exact .inl ⟨hcut, rfl⟩
    | array hnew hroom hlength helements =>
      exact .inr ⟨⟨hnew, hroom⟩, _, List.forall₂_iff_zip.mpr ⟨hlength, helements⟩, rfl⟩
  · rintro (⟨hcut, rfl⟩ | ⟨⟨hnew, hroom⟩, trees, htrees, rfl⟩)
    · exact .cut hcut
    · obtain ⟨hlength, helements⟩ := List.forall₂_iff_zip.mp htrees
      exact .array hnew hroom hlength helements

theorem contents_iff_of_ne_array (hv : ∀ ref, v ≠ .array ref) :
    Contents heap v tree ↔ ∃ shown, v.shown? heap = some shown ∧ tree = .leaf shown := by
  constructor
  · intro h
    cases h with
    | leaf hshown => exact ⟨_, hshown, rfl⟩
    | array hlength helements => exact absurd rfl (hv _)
  · rintro ⟨shown, hshown, rfl⟩
    exact .leaf hshown

theorem contents_array_iff :
    Contents heap (.array ref) tree ↔
      ∃ trees, List.Forall₂ (Contents heap) (heap.elements ref) trees ∧ tree = .array trees := by
  constructor
  · intro h
    cases h with
    | leaf hshown => cases hshown
    | array hlength helements =>
      exact ⟨_, List.forall₂_iff_zip.mpr ⟨hlength, helements⟩, rfl⟩
  · rintro ⟨trees, htrees, rfl⟩
    obtain ⟨hlength, helements⟩ := List.forall₂_iff_zip.mp htrees
    exact .array hlength helements

/-- A value unfolds to one tree only. -/
theorem Unfolds.unique {tree' : Tree} (h : Unfolds heap chain v tree)
    (h' : Unfolds heap chain v tree') : tree' = tree := by
  induction h generalizing tree' with
  | leaf hshown =>
    obtain ⟨shown, hshown', rfl⟩ := (unfolds_iff_of_ne_array (ne_array_of_shown? hshown)).mp h'
    rw [Option.some.inj (hshown'.symm.trans hshown)]
  | cut hcut =>
    rcases unfolds_array_iff.mp h' with ⟨-, rfl⟩ | ⟨⟨hnew, hroom⟩, -⟩
    · rfl
    · exact absurd hcut (not_or.mpr ⟨hnew, Nat.not_le.mpr hroom⟩)
  | array hnew hroom hlength helements ih =>
    rcases unfolds_array_iff.mp h' with ⟨hcut, -⟩ | ⟨-, trees', htrees', rfl⟩
    · exact absurd hcut (not_or.mpr ⟨hnew, Nat.not_le.mpr hroom⟩)
    · have hone := List.forall₂_iff_zip.mpr ⟨hlength, fun hmem tree' ↦ @ih _ _ hmem tree'⟩
      rw [eq_of_forall₂ hone htrees']

theorem exists_unfolds_of_ne_array (hv : ∀ ref, v ≠ .array ref)
    (hshows : ∀ o, Holds heap v (.object o) → ∃ shown, display heap o = .ok shown) :
    ∃ tree, Unfolds heap chain v tree := by
  cases v with
  | array ref => exact absurd rfl (hv ref)
  | object o =>
    obtain ⟨shown, hshown⟩ := hshows o (.self _)
    exact ⟨.leaf shown, .leaf (by rw [shown?, hshown]; rfl)⟩
  | _ => exact ⟨_, .leaf rfl⟩

/-- A value unfolds to a tree if all that it holds can be shown. The room for further arrays gets
less along the chain. -/
theorem exists_unfolds {room : Nat} (hroom : 32 ≤ room + chain.length)
    (hshows : ∀ o, Holds heap v (.object o) → ∃ shown, display heap o = .ok shown) :
    ∃ tree, Unfolds heap chain v tree := by
  induction room generalizing chain v with
  | zero =>
    by_cases hv : ∀ ref, v ≠ .array ref
    · exact exists_unfolds_of_ne_array hv hshows
    · push Not at hv
      obtain ⟨ref, rfl⟩ := hv
      exact ⟨.cut, .cut (.inr (by omega))⟩
  | succ room ih =>
    by_cases hv : ∀ ref, v ≠ .array ref
    · exact exists_unfolds_of_ne_array hv hshows
    push Not at hv
    obtain ⟨ref, rfl⟩ := hv
    by_cases hcut : ref ∈ chain ∨ 32 ≤ chain.length
    · exact ⟨.cut, .cut hcut⟩
    · obtain ⟨trees, htrees⟩ := exists_forall₂ fun w hmem ↦
        @ih (ref :: chain) w (by rw [List.length_cons]; omega)
          fun o ho ↦ hshows o (.element hmem ho)
      rw [not_or, Nat.not_le] at hcut
      exact ⟨.array trees, unfolds_array_iff.mpr (.inr ⟨hcut, trees, htrees, rfl⟩)⟩

/-! ## Rendering -/

theorem escape_ofList_of_escaped {text : List Char} (h : ∀ c ∈ text, Html.escaped c = false) :
    Html.escape (String.ofList text) = String.ofList text := by
  rw [Html.escape, String.toList_ofList, Html.escapeChars_eq_self h]

/-- What is no array is rendered as its text, escaped. Only some values are escaped at all, but the
others have nothing to escape. -/
theorem writes_leaf (hv : ∀ ref, v ≠ .array ref) (room : Nat) :
    Writes (renderInto heap room v) chain
      fun s ↦ ∃ shown, v.shown? heap = some shown ∧ s = Html.escape shown := by
  have hplain (plain : String) (hfree : Html.escape plain = plain) :
      Writes (write plain) chain fun s ↦ ∃ shown, some plain = some shown ∧ s = Html.escape shown :=
    (writes_write plain).congr fun s ↦ by simp [hfree]
  cases v with
  | array ref => exact absurd rfl (hv ref)
  | object o =>
    intro written after
    rw [renderInto, shown?]
    cases display heap o with
    | error message =>
      constructor
      · intro h
        cases h
      · rintro ⟨_, ⟨_, h, _⟩, _⟩
        cases h
    | ok shown =>
      have hshown : Writes (write (Html.escape shown)) chain
          fun s ↦ ∃ other, some shown = some other ∧ s = Html.escape other :=
        (writes_write _).congr fun s ↦ by simp
      exact hshown written after
  | char c | text s =>
    rw [renderInto, shown?]
    exact (writes_write _).congr fun s ↦ by simp
  | null => rw [renderInto, shown?]; exact hplain _ (by decide)
  | bool b => rw [renderInto, shown?]; exact hplain _ (by cases b <;> decide)
  | int width n =>
    rw [renderInto, shown?]
    exact hplain _ (escape_ofList_of_escaped fun c ↦ Word.escaped_of_mem_text)
  | single x | double x =>
    rw [renderInto, shown?]
    exact hplain _ (escape_ofList_of_escaped fun c ↦ Floating.escaped_of_mem_text)

theorem writes_leaf_tree (hv : ∀ ref, v ≠ .array ref) (room : Nat) :
    Writes (renderInto heap room v) chain
      fun s ↦ ∃ tree, Unfolds heap chain v tree ∧ s = tree.markup := by
  refine (writes_leaf hv room).congr fun s ↦ ?_
  simp only [unfolds_iff_of_ne_array hv]
  constructor
  · rintro ⟨shown, hshown, rfl⟩
    exact ⟨_, ⟨shown, hshown, rfl⟩, by rw [Tree.markup]⟩
  · rintro ⟨_, ⟨shown, hshown, rfl⟩, rfl⟩
    exact ⟨shown, hshown, by rw [Tree.markup]⟩

theorem eq_truncated_iff (hcut : ref ∈ chain ∨ 32 ≤ chain.length) {s : String} :
    s = truncated ↔ ∃ tree, Unfolds heap chain (.array ref) tree ∧ s = tree.markup := by
  have hnot : ¬(ref ∉ chain ∧ chain.length < 32) := by
    rwa [not_and_or, not_not, Nat.not_lt]
  simp only [unfolds_array_iff, hnot, hcut, true_and, false_and, or_false, exists_eq_left,
    Tree.markup, truncated]

/-- Rendering writes the tree that a value unfolds to. The room and the path always add up to the
bound, so the recursion runs out of room exactly at the thirty-third array. -/
theorem writes_renderInto {room : Nat} (hroom : room + chain.length = 32) :
    Writes (renderInto heap room v) chain
      fun s ↦ ∃ tree, Unfolds heap chain v tree ∧ s = tree.markup := by
  induction room generalizing chain v with
  | zero =>
    by_cases hv : ∀ ref, v ≠ .array ref
    · exact writes_leaf_tree hv 0
    · push Not at hv
      obtain ⟨ref, rfl⟩ := hv
      rw [renderInto]
      exact (writes_write truncated).congr fun s ↦ eq_truncated_iff (.inr (by omega))
  | succ room ih =>
    by_cases hv : ∀ ref, v ≠ .array ref
    · exact writes_leaf_tree hv (room + 1)
    push Not at hv
    obtain ⟨ref, rfl⟩ := hv
    by_cases hmem : ref ∈ chain
    · exact (writes_truncated hmem).congr fun s ↦ eq_truncated_iff (.inl hmem)
    have hinside (w : Value) := @ih (ref :: chain) w (by rw [List.length_cons]; omega)
    refine (writes_array hmem hinside).congr fun s ↦ ?_
    have hlt : chain.length < 32 := by omega
    have hnot : ¬32 ≤ chain.length := by omega
    simp only [unfolds_array_iff, hmem, hlt, hnot, or_self, false_and, false_or, not_false_eq_true,
      and_self, true_and, forall₂_exists_map_iff]
    constructor
    · rintro ⟨_, ⟨trees, htrees, rfl⟩, rfl⟩
      exact ⟨_, ⟨trees, htrees, rfl⟩, (Tree.markup_array trees).symm⟩
    · rintro ⟨_, ⟨trees, htrees, rfl⟩, rfl⟩
      exact ⟨_, ⟨trees, htrees, rfl⟩, Tree.markup_array trees⟩

theorem render_eq_ok_iff {s : String} :
    v.render heap = .ok s ↔ ∃ tree, Unfolds heap [] v tree ∧ s = tree.markup :=
  render_eq_ok_iff_of_writes (writes_renderInto rfl)

/-- Rendering panics only with the display of an object that the value holds. -/
theorem exists_display_eq_error {message : String} (h : v.render heap = .error message) :
    ∃ o panic, Holds heap v (.object o) ∧ display heap o = .error panic := by
  by_contra hnone
  have hshows (o : Object) (ho : Holds heap v (.object o)) :
      ∃ shown, display heap o = .ok shown := by
    cases hdisplay : display heap o with
    | ok shown => exact ⟨shown, rfl⟩
    | error panic => exact absurd ⟨o, panic, ho, hdisplay⟩ hnone
  obtain ⟨tree, htree⟩ := @exists_unfolds heap [] v 32 (by simp) hshows
  have hrender := render_eq_ok_iff.mpr ⟨tree, htree, rfl⟩
  rw [h] at hrender
  cases hrender

/-! ## What renderings are made of -/

/-- Harmless text, or elements that are each in a span, nested so many deep at most. -/
inductive Rendered : Nat → String → Prop
  | text {depth : Nat} {s : String} (h : Html.Harmless s.toList) : Rendered depth s
  | array {depth : Nat} {elements : List String} (h : ∀ {s}, s ∈ elements → Rendered depth s) :
      Rendered (depth + 1)
        ("[" ++ ", ".intercalate (elements.map fun element ↦
          "<span class=\"array-element\">" ++ element ++ "</span>") ++ "]")

/-- Each array of a chain takes one of the depth. -/
theorem rendered_of_unfolds {heap : Heap} {chain : List ArrayRef} {v : Value} {tree : Tree}
    (h : Unfolds heap chain v tree) : Rendered (32 - chain.length) tree.markup := by
  induction h with
  | leaf hshown =>
    rw [Tree.markup]
    exact .text (Html.Harmless.escape _)
  | cut hcut =>
    rw [Tree.markup]
    exact .text (Html.Harmless.of_escaped (Html.escaped_of_all (by decide)))
  | @array chain ref trees hnew hroom hlength helements ih =>
    have hdepth : 32 - chain.length = 32 - (ref :: chain).length + 1 := by
      rw [List.length_cons]
      omega
    rw [Tree.markup_array, hdepth]
    refine .array fun {s} hs ↦ ?_
    obtain ⟨tree, htree, rfl⟩ := List.mem_map.mp hs
    rw [← List.map_snd_zip (Nat.le_of_eq hlength.symm), List.mem_map] at htree
    obtain ⟨⟨v, _⟩, hmem, rfl⟩ := htree
    exact ih hmem

theorem rendered_of_render {heap : Heap} {v : Value} {s : String} (h : v.render heap = .ok s) :
    Rendered 32 s := by
  obtain ⟨tree, htree, rfl⟩ := render_eq_ok_iff.mp h
  exact rendered_of_unfolds htree

/-! ## Values without long chains -/

/-- No chain from a value is longer than a bound. -/
def Within (heap : Heap) (bound : Nat) (v : Value) : Prop :=
  ∀ refs, Chain heap v refs → refs.length ≤ bound

theorem Within.mono {bound bound' : Nat} (h : Within heap bound v) (hle : bound ≤ bound') :
    Within heap bound' v :=
  fun refs hrefs ↦ Nat.le_trans (h refs hrefs) hle

theorem within_of_ne_array (hv : ∀ ref, v ≠ .array ref) (bound : Nat) : Within heap bound v := by
  intro refs hrefs
  cases hrefs with
  | single ref => exact absurd rfl (hv ref)
  | cons hmem hrefs => exact absurd rfl (hv _)

/-- The bound decreases from an array to its elements. -/
theorem within_array_iff {bound : Nat} :
    Within heap bound (.array ref) ↔
      ∃ rest, bound = rest + 1 ∧ ∀ v ∈ heap.elements ref, Within heap rest v := by
  constructor
  · intro h
    have hpos : 1 ≤ bound := h [ref] (.single ref)
    refine ⟨bound - 1, by omega, fun v hmem refs hrefs ↦ ?_⟩
    have hlonger := h (ref :: refs) (.cons hmem hrefs)
    rw [List.length_cons] at hlonger
    omega
  · rintro ⟨rest, rfl, h⟩ refs hrefs
    cases hrefs with
    | single => exact Nat.le_add_left 1 rest
    | cons hmem hrefs =>
      rw [List.length_cons]
      exact Nat.succ_le_succ (h _ hmem _ hrefs)

/-- Values with the same contents have the same chains. -/
theorem Contents.within (h : Contents heap v tree) {heap' : Heap} {v' : Value}
    (h' : Contents heap' v' tree) {bound : Nat} (hbound : Within heap bound v) :
    Within heap' bound v' := by
  induction h generalizing v' bound with
  | leaf hshown =>
    cases h' with
    | leaf hshown' => exact within_of_ne_array (ne_array_of_shown? hshown') bound
  | array hlength helements ih =>
    cases h' with
    | array hlength' helements' =>
      obtain ⟨rest, rfl, hrest⟩ := within_array_iff.mp hbound
      refine within_array_iff.mpr ⟨rest, rfl, fun w hw ↦ ?_⟩
      have hkept := List.forall₂_iff_zip.mpr ⟨hlength,
        fun hmem w (hw : Contents heap' w _) (hv : Within heap rest _) ↦ ih hmem hw hv⟩
      obtain ⟨v, hv, tree, hkept, hw⟩ := exists_of_forall₂_of_mem hkept
        (List.forall₂_iff_zip.mpr ⟨hlength', helements'⟩) hw
      exact hkept w hw (hrest v hv)

/-- Nothing is cut off where the chains are short. The bound still holds of the value, and no longer
of the arrays it stands inside of, so it cannot be one of them. -/
theorem unfolds_iff_contents {bound : Nat} (hroom : chain.length + bound ≤ 32)
    (hbound : Within heap bound v) (hchain : ∀ ref ∈ chain, ¬Within heap bound (.array ref)) :
    Unfolds heap chain v tree ↔ Contents heap v tree := by
  induction bound generalizing chain v tree with
  | zero =>
    have hv : ∀ ref, v ≠ .array ref := by
      rintro ref rfl
      obtain ⟨_, h, -⟩ := within_array_iff.mp hbound
      cases h
    rw [unfolds_iff_of_ne_array hv, contents_iff_of_ne_array hv]
  | succ bound ih =>
    by_cases hv : ∀ ref, v ≠ .array ref
    · rw [unfolds_iff_of_ne_array hv, contents_iff_of_ne_array hv]
    push Not at hv
    obtain ⟨ref, rfl⟩ := hv
    have hchain' : ∀ ref ∈ chain, ¬Within heap bound (.array ref) :=
      fun ref hmem hwithin ↦ hchain ref hmem (hwithin.mono (Nat.le_succ bound))
    by_cases hless : Within heap bound (.array ref)
    · exact ih (by omega) hless hchain'
    · obtain ⟨_, hrest, helements⟩ := within_array_iff.mp hbound
      cases hrest
      have hnew : ref ∉ chain := fun hmem ↦ hchain ref hmem hbound
      have hlt : chain.length < 32 := by omega
      have hnot : ¬32 ≤ chain.length := by omega
      have hmembers (trees : List Tree) :
          List.Forall₂ (Unfolds heap (ref :: chain)) (heap.elements ref) trees ↔
            List.Forall₂ (Contents heap) (heap.elements ref) trees :=
        forall₂_congr_left fun w hmem tree ↦ ih (by rw [List.length_cons]; omega)
          (helements w hmem) (List.forall_mem_cons.mpr ⟨hless, hchain'⟩)
      rw [unfolds_array_iff, contents_array_iff]
      simp only [hmembers, hnew, hlt, hnot, or_self, false_and, false_or, not_false_eq_true,
        and_self, true_and]

/-- **Rendering writes down what a value unfolds to.** A value is rendered whenever all that it
holds can be shown, and what is written is the one tree that it unfolds to, cut at arrays that are
on their own chain and at the thirty-third of a chain. Where no chain is longer than thirty-two,
nothing is cut, and every other value with the same contents is rendered the same. -/
theorem render_unfolded (heap : Heap) (v : Value)
    (hshows : ∀ o, Holds heap v (.object o) → ∃ shown, display heap o = .ok shown) :
    ∃ tree, v.render heap = .ok tree.markup ∧
      (∀ other, Unfolds heap [] v other ↔ other = tree) ∧
      ((∀ refs, Chain heap v refs → refs.length ≤ 32) → Contents heap v tree ∧
        ∀ heap' v', Contents heap' v' tree → v'.render heap' = .ok tree.markup) := by
  obtain ⟨tree, htree⟩ := @exists_unfolds heap [] v 32 (by simp) hshows
  refine ⟨tree, render_eq_ok_iff.mpr ⟨tree, htree, rfl⟩,
    fun other ↦ ⟨htree.unique, fun h ↦ h ▸ htree⟩, fun hchains ↦ ?_⟩
  have hcontents := (unfolds_iff_contents (by simp) hchains (by simp)).mp htree
  refine ⟨hcontents, fun heap' v' hcontents' ↦ render_eq_ok_iff.mpr ⟨tree, ?_, rfl⟩⟩
  exact (unfolds_iff_contents (by simp) (hcontents.within hcontents' hchains) (by simp)).mpr
    hcontents'

/-- An array that holds another one twice, and an object next to it. -/
def sharing : Heap :=
  { arrays := ⟨#[[.text "a & b"],
      [.array ⟨0⟩, .array ⟨0⟩, .object (.foreign "Knob" (.shows "<on>"))]]⟩ }

/-- The shared array is written twice, as a copy in its place would be. -/
theorem render_unfolded_sharing :
    ∃ tree, (array ⟨1⟩).render sharing = .ok tree.markup ∧ Contents sharing (.array ⟨1⟩) tree ∧
      tree.markup = "[<span class=\"array-element\">" ++
        "[<span class=\"array-element\">a &#38; b</span>]</span>, " ++
        "<span class=\"array-element\">[<span class=\"array-element\">a &#38; b</span>]</span>, " ++
        "<span class=\"array-element\">&#60;on&#62;</span>]" := by
  have hinner : ∀ v ∈ sharing.elements ⟨0⟩, v = .text "a & b" := by decide
  have houter : ∀ v ∈ sharing.elements ⟨1⟩,
      v = .array ⟨0⟩ ∨ v = .object (.foreign "Knob" (.shows "<on>")) := by decide
  have hshows : ∀ o, Holds sharing (.array ⟨1⟩) (.object o) →
      ∃ shown, display sharing o = .ok shown := by
    rintro o (_ | ⟨hmem, h⟩)
    rcases houter _ hmem with rfl | rfl
    · obtain _ | ⟨hmem, h⟩ := h
      rw [hinner _ hmem] at h
      cases h
    · cases h
      exact ⟨_, rfl⟩
  have hchains : Within sharing 32 (.array ⟨1⟩) := by
    refine within_array_iff.mpr ⟨31, rfl, fun v hv ↦ ?_⟩
    rcases houter v hv with rfl | rfl
    · refine within_array_iff.mpr ⟨30, rfl, fun w hw ↦ ?_⟩
      rw [hinner w hw]
      exact within_of_ne_array (by rintro ref ⟨⟩) 30
    · exact within_of_ne_array (by rintro ref ⟨⟩) 31
  obtain ⟨tree, hrender, -, hshort⟩ := render_unfolded sharing (.array ⟨1⟩) hshows
  exact ⟨tree, hrender, (hshort hchains).1,
    Except.ok.inj (hrender.symm.trans (by decide +kernel))⟩

/-- An array that contains itself behind a null is cut off the second time. -/
example : (array ⟨0⟩).render { arrays := ⟨#[[.null, .array ⟨0⟩]]⟩ } =
    .ok ("[<span class=\"array-element\">null</span>, " ++
      "<span class=\"array-element\">[...]</span>]") := by
  decide +kernel

end Value

end ObjectConsole
