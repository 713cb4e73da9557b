import Mathlib.Combinatorics.Enumerative.DyckWord
import ObjectConsole.Proofs.Value.Unfolding

/-!
# How the spans of a rendering are nested

Rendering writes an opening tag here and a closing one there, between texts of any origin, and ends
early where an array is cut off. That the tags still match is a property of the language of
renderings, which `Generates` gives by its productions. A reader that knows nothing of arrays finds
the tags again (`tags?`): it takes any angle bracket or quote outside of a span's tags for an error.
What it finds in a generated text is a Dyck word, the word of a bracketing that closes whatever it
opens, and no bracket stands deeper in it than the productions were nested
(`exists_brackets_of_generates`).
-/

namespace ObjectConsole.Value

open Text

/-! ## The language of renderings -/

/-- What a stretch of a rendering is: a value, an element in its span, or elements in a row. -/
inductive Phrase where
  | value
  | element
  | elements

/-- The productions of renderings. The number says how deep spans stand in spans at most. -/
inductive Generates : Phrase → Nat → String → Prop
  | text {depth : Nat} {s : String} (h : Html.Harmless s.toList) : Generates .value depth s
  | cut {depth : Nat} : Generates .value depth "[...]"
  | empty {depth : Nat} : Generates .value depth "[]"
  | array {depth : Nat} {s : String} (h : Generates .elements depth s) :
      Generates .value depth ("[" ++ s ++ "]")
  | element {depth : Nat} {s : String} (h : Generates .value depth s) :
      Generates .element (depth + 1) ("<span class=\"array-element\">" ++ s ++ "</span>")
  | last {depth : Nat} {s : String} (h : Generates .element depth s) : Generates .elements depth s
  | more {depth : Nat} {s t : String} (h : Generates .element depth s)
      (h' : Generates .elements depth t) : Generates .elements depth (s ++ ", " ++ t)

theorem generates_intercalate {depth : Nat} {parts : List String} (hne : parts ≠ [])
    (h : ∀ s ∈ parts, Generates .element depth s) :
    Generates .elements depth (", ".intercalate parts) := by
  induction parts with
  | nil => exact absurd rfl hne
  | cons first parts ih =>
    obtain ⟨hfirst, hothers⟩ := List.forall_mem_cons.mp h
    cases parts with
    | nil =>
      rw [String.intercalate_singleton]
      exact .last hfirst
    | cons second parts =>
      rw [String.intercalate_cons_cons]
      exact .more hfirst (ih (List.cons_ne_nil _ _) hothers)

theorem generates_of_rendered {depth : Nat} {s : String} (h : Rendered depth s) :
    Generates .value depth s := by
  induction h with
  | text hharmless => exact .text hharmless
  | @array depth elements _ ih =>
    rcases eq_or_ne elements [] with rfl | hne
    · exact .empty
    · refine .array (generates_intercalate (mt List.map_eq_nil_iff.mp hne) fun s hs ↦ ?_)
      obtain ⟨element, hmem, rfl⟩ := List.mem_map.mp hs
      exact .element (ih hmem)

/-! ## Reading tags -/

/-- What stands behind the angle bracket of an opening tag, and of a closing one. -/
def tagText : DyckStep → List Char
  | .U => "span class=\"array-element\">".toList
  | .D => "/span>".toList

/-- The tags of a text from some point on, of which the first `skip` characters belong to a tag
already found. -/
def tagsFrom? : Nat → List Char → Option (List DyckStep)
  | _, [] => some []
  | skip + 1, _ :: rest => tagsFrom? skip rest
  | 0, c :: rest =>
    if c = '<' then
      if (tagText .U).isPrefixOf rest then (tagsFrom? (tagText .U).length rest).map (.U :: ·)
      else if (tagText .D).isPrefixOf rest then (tagsFrom? (tagText .D).length rest).map (.D :: ·)
      else none
    else if c = '>' ∨ c = '"' then none
    else tagsFrom? 0 rest

/-- The tags of a text in order, opening and closing ones. There are none where an angle bracket or
a quote belongs to no tag of a span. -/
def tags? (s : List Char) : Option (List DyckStep) :=
  tagsFrom? 0 s

/-- A stretch whose tags are a bracketing of its own, whatever stands behind it. -/
def Brackets (s : List Char) (word : DyckWord) : Prop :=
  ∀ rest, tags? (s ++ rest) = (tags? rest).map (word.toList ++ ·)

namespace Brackets

variable {s t : List Char} {word word' : DyckWord}

theorem tags?_eq (h : Brackets s word) : tags? s = some word.toList := by
  have htags := h []
  rwa [List.append_nil, tags?, tags?, tagsFrom?, Option.map_some, List.append_nil] at htags

theorem append (hs : Brackets s word) (ht : Brackets t word') :
    Brackets (s ++ t) (word + word') := by
  intro rest
  rw [List.append_assoc, hs, ht, Option.map_map]
  exact congrArg (Option.map · _) (funext fun tags ↦ (List.append_assoc ..).symm)

/-- Harmless text has no tags. -/
theorem of_harmless (h : Html.Harmless s) : Brackets s 0 := by
  intro rest
  replace h := h.no_markup
  induction s with
  | nil => exact Option.map_id'.symm
  | cons c s ih =>
    obtain ⟨⟨hopen, hclose, hquote⟩, hs⟩ := List.forall_mem_cons.mp h
    rw [List.cons_append, tags?, tagsFrom?, if_neg hopen, if_neg (by simp [hclose, hquote])]
    exact ih hs

theorem of_all (h : (s.all fun c ↦ !Html.escaped c) = true) : Brackets s 0 :=
  of_harmless (.of_escaped (Html.escaped_of_all h))

theorem span (h : Brackets s word) :
    Brackets ("<span class=\"array-element\">".toList ++ s ++ "</span>".toList) word.nest := by
  intro rest
  have hopening (behind : List Char) : tags? ("<span class=\"array-element\">".toList ++ behind) =
      (tags? behind).map (.U :: ·) := rfl
  have hclosing : tags? ("</span>".toList ++ rest) = (tags? rest).map (.D :: ·) := rfl
  rw [List.append_assoc, List.append_assoc, hopening, h, hclosing, Option.map_map, Option.map_map]
  refine congrArg (Option.map · _) (funext fun tags ↦ ?_)
  simp [DyckWord.nest]

end Brackets

/-! ## Depth -/

/-- No bracket of a word stands inside more than so many. -/
def AtMostDeep (depth : Nat) (word : DyckWord) : Prop :=
  ∀ i, (word.toList.take i).count .U ≤ (word.toList.take i).count .D + depth

namespace AtMostDeep

variable {depth : Nat} {word word' : DyckWord}

theorem zero : AtMostDeep depth 0 := by
  intro i
  have htake : (0 : DyckWord).toList.take i = [] := List.take_nil
  rw [htake]
  exact Nat.zero_le _

theorem add (h : AtMostDeep depth word) (h' : AtMostDeep depth word') :
    AtMostDeep depth (word + word') := by
  intro i
  have htake : (word + word').toList.take i =
      word.toList.take i ++ word'.toList.take (i - word.toList.length) := List.take_append
  rw [htake, List.count_append, List.count_append]
  rcases Nat.le_total i word.toList.length with hle | hle
  · rw [Nat.sub_eq_zero_of_le hle, List.take_zero]
    exact h i
  · -- the first word is complete, and all its brackets are closed
    have hclosed := word.count_U_eq_count_D
    have hsecond := h' (i - word.toList.length)
    rw [List.take_of_length_le hle]
    omega

theorem nest (h : AtMostDeep depth word) : AtMostDeep (depth + 1) word.nest := by
  intro i
  cases i with
  | zero => exact Nat.zero_le _
  | succ i =>
    have htake : word.nest.toList.take (i + 1) =
        .U :: (word.toList.take i ++ [DyckStep.D].take (i - word.toList.length)) :=
      congrArg (DyckStep.U :: ·) List.take_append
    have hinside := h i
    have hend : ([DyckStep.D].take (i - word.toList.length)).count .U = 0 :=
      List.count_eq_zero.mpr fun hmem ↦ nomatch List.mem_singleton.mp (List.mem_of_mem_take hmem)
    rw [htake, List.count_cons_self, List.count_cons_of_ne (by decide), List.count_append,
      List.count_append, hend]
    omega

end AtMostDeep

/-- The tags of what is generated are a bracketing as deep as the productions at most. -/
theorem exists_brackets_of_generates {phrase : Phrase} {depth : Nat} {s : String}
    (h : Generates phrase depth s) : ∃ word, Brackets s.toList word ∧ AtMostDeep depth word := by
  induction h with
  | text hharmless => exact ⟨0, .of_harmless hharmless, .zero⟩
  | cut | empty => exact ⟨0, .of_all (by decide), .zero⟩
  | @array depth s _ ih =>
    obtain ⟨word, hword, hdepth⟩ := ih
    have hbegin : Brackets "[".toList 0 := .of_all (by decide)
    have hend : Brackets "]".toList 0 := .of_all (by decide)
    refine ⟨0 + word + 0, ?_, ?_⟩
    · rw [String.toList_append, String.toList_append]
      exact (hbegin.append hword).append hend
    · exact (AtMostDeep.zero.add hdepth).add .zero
  | element _ ih =>
    obtain ⟨word, hword, hdepth⟩ := ih
    refine ⟨word.nest, ?_, hdepth.nest⟩
    rw [String.toList_append, String.toList_append]
    exact hword.span
  | last _ ih => exact ih
  | more _ _ ih ih' =>
    obtain ⟨word, hword, hdepth⟩ := ih
    obtain ⟨word', hword', hdepth'⟩ := ih'
    have hseparator : Brackets ", ".toList 0 := .of_all (by decide)
    refine ⟨word + 0 + word', ?_, (hdepth.add .zero).add hdepth'⟩
    rw [String.toList_append, String.toList_append]
    exact (hword.append hseparator).append hword'

/-! ## Renderings -/

/-- **Renderings are well-formed markup that does nothing.** A value is rendered whenever all that
it holds can be shown, however its arrays contain each other. What is written follows the
productions of renderings, so all its markup is the tags of spans, and these are a bracketing that
is at most thirty-two deep. -/
theorem render_wellNested (heap : Heap) (v : Value)
    (hshows : ∀ o, Holds heap v (.object o) → ∃ shown, display heap o = .ok shown) :
    ∃ s, v.render heap = .ok s ∧ Generates .value 32 s ∧
      ∃ word : DyckWord, tags? s.toList = some word.toList ∧
        ∀ i, (word.toList.take i).count .U ≤ (word.toList.take i).count .D + 32 := by
  obtain ⟨tree, htree⟩ := @exists_unfolds heap [] v 32 (by simp) hshows
  have hrender := render_eq_ok_iff.mpr ⟨tree, htree, rfl⟩
  have hgenerates := generates_of_rendered (rendered_of_render hrender)
  obtain ⟨word, hword, hdepth⟩ := exists_brackets_of_generates hgenerates
  exact ⟨tree.markup, hrender, hgenerates, word, hword.tags?_eq, hdepth⟩

/-- An array that holds itself, beside an array that leads back to it and to an object. -/
def knotted : Heap :=
  { arrays := ⟨#[[.text "<&#60;>", .array ⟨0⟩, .array ⟨1⟩],
      [.array ⟨0⟩, .object (.foreign "Knob" (.shows "\"é\""))]]⟩ }

/-- The values that it leads to. -/
def inKnotted : List Value :=
  [.text "<&#60;>", .array ⟨0⟩, .array ⟨1⟩, .object (.foreign "Knob" (.shows "\"é\""))]

theorem mem_inKnotted_of_holds {v w : Value} (h : Holds knotted v w) (hv : v ∈ inKnotted) :
    w ∈ inKnotted := by
  induction h with
  | self v => exact hv
  | @element ref v w hmem _ ih =>
    have hfirst : ∀ v ∈ knotted.elements ⟨0⟩, v ∈ inKnotted := by decide
    have hsecond : ∀ v ∈ knotted.elements ⟨1⟩, v ∈ inKnotted := by decide
    have href : ref = ⟨0⟩ ∨ ref = ⟨1⟩ := by simpa [inKnotted] using hv
    rcases href with rfl | rfl
    · exact ih (hfirst v hmem)
    · exact ih (hsecond v hmem)

/-- Its tags are those of three elements, and inside the third those of two more. -/
theorem render_wellNested_knotted :
    let s := "[<span class=\"array-element\">&#60;&#38;#60;&#62;</span>, " ++
      "<span class=\"array-element\">[...]</span>, " ++
      "<span class=\"array-element\">[<span class=\"array-element\">[...]</span>, " ++
      "<span class=\"array-element\">&#34;&#233;&#34;</span>]</span>]"
    (array ⟨0⟩).render knotted = .ok s ∧ Generates .value 32 s ∧
      ∃ word : DyckWord, tags? s.toList = some word.toList ∧
        word.toList = [.U, .D, .U, .D, .U, .U, .D, .U, .D, .D] := by
  intro s
  have hs : (array ⟨0⟩).render knotted = .ok s := by decide +kernel
  have hshows : ∀ o, Holds knotted (.array ⟨0⟩) (.object o) →
      ∃ shown, display knotted o = .ok shown := by
    intro o ho
    have hmem := mem_inKnotted_of_holds ho (by decide)
    obtain rfl : o = .foreign "Knob" (.shows "\"é\"") := by simpa [inKnotted] using hmem
    exact ⟨_, rfl⟩
  obtain ⟨_, hrender, hgenerates, word, htags, -⟩ := render_wellNested knotted (.array ⟨0⟩) hshows
  cases hs.symm.trans hrender
  refine ⟨hs, hgenerates, word, htags, Option.some.inj (htags.symm.trans ?_)⟩
  simp only [s, String.toList_append, String.reduceToList]
  rfl

end ObjectConsole.Value
