import ObjectConsole.Proofs.Store.Traversal
import ObjectConsole.Reference.Uuid
import Mathlib.Algebra.GroupWithZero.Nat
import Mathlib.Data.List.Basic
import Mathlib.Tactic.SplitIfs

/-!
# How identifiers are spelled

Reading an identifier looks at lengths, prefixes and the last character. What is accepted is said
here without any of that, as a grammar (`Uuid.Spells`): a digit has a spelling in each letter case,
an identifier is spelled by its digits alone or in hyphenated groups, and groups are bare, in
braces, or behind the name prefix, whose letters may have any case. The four spellings differ in
length, which tells the first from the others; these are told apart by their first character, which
no digit is. The hyphens are no digits either, so cutting at them gives back the groups.

Of these spellings, one is written. Hence an identifier is read as it is written (`parse?_chars`),
and different identifiers are written differently.
-/

namespace ObjectConsole

open Text

/-! ## Digits -/

/-- A digit is read in two spellings, which agree below ten. -/
theorem Text.Hex.value?_eq_some_iff {c : Char} {d : Fin 16} :
    value? c = some d ↔ c = lower d ∨ c = upper d := by
  constructor
  · intro h
    rw [← Char.ofNat_toNat c]
    simp only [value?] at h
    split_ifs at h with hdecimal hlower hupper <;> cases h
    · left
      rw [lower, if_pos (by simp only; omega)]
      congr 1
      simp only
      omega
    · left
      rw [lower, if_neg (by simp only; omega)]
      congr 1
      simp only
      omega
    · right
      rw [upper, if_neg (by simp only; omega)]
      congr 1
      simp only
      omega
  · rintro (rfl | rfl)
    · exact value?_lower d
    · exact value?_upper d

namespace Uuid

/-! ## Groups -/

variable {α : Type}

theorem map_length_groups {lengths : List Nat} {l : List α} (h : lengths.sum ≤ l.length) :
    (groups lengths l).map List.length = lengths := by
  induction lengths generalizing l with
  | nil => rfl
  | cons n lengths ih =>
    rw [List.sum_cons] at h
    have hrest : lengths.sum ≤ (l.drop n).length := by
      rw [List.length_drop]
      omega
    rw [groups, List.map_cons, ih hrest, List.length_take_of_le (by omega)]

theorem flatten_groups (lengths : List Nat) (l : List α) :
    (groups lengths l).flatten = l.take lengths.sum := by
  induction lengths generalizing l with
  | nil => rfl
  | cons n lengths ih => rw [groups, List.flatten_cons, ih, List.sum_cons, List.take_add]

theorem mem_of_mem_groups {lengths : List Nat} {l piece : List α} {a : α}
    (hpiece : piece ∈ groups lengths l) (ha : a ∈ piece) : a ∈ l := by
  have hflatten : a ∈ (groups lengths l).flatten := List.mem_flatten.mpr ⟨piece, hpiece, ha⟩
  rw [flatten_groups] at hflatten
  exact List.mem_of_mem_take hflatten

theorem mem_of_mem_intercalate {separator : List α} {pieces : List (List α)} {a : α}
    (h : a ∈ separator.intercalate pieces) : a ∈ separator ∨ ∃ piece ∈ pieces, a ∈ piece := by
  induction pieces with
  | nil => cases h
  | cons piece pieces ih =>
    cases pieces with
    | nil =>
      rw [List.intercalate_singleton] at h
      exact .inr ⟨piece, List.mem_cons_self, h⟩
    | cons next pieces =>
      rw [List.intercalate_cons_cons, List.append_assoc, List.mem_append, List.mem_append] at h
      rcases h with hpiece | hseparator | hrest
      · exact .inr ⟨piece, List.mem_cons_self, hpiece⟩
      · exact .inl hseparator
      · refine (ih hrest).imp_right ?_
        rintro ⟨other, hother, ha⟩
        exact ⟨other, List.mem_cons_of_mem _ hother, ha⟩

/-- An identifier is written in digits and hyphens. -/
theorem eq_hyphen_or_of_mem_chars {id : Uuid} {c : Char} (h : c ∈ id.chars) :
    c = '-' ∨ ∃ d : Fin 16, c = Hex.lower d := by
  rcases mem_of_mem_intercalate h with hhyphen | ⟨piece, hpiece, hc⟩
  · exact .inl (List.mem_singleton.mp hhyphen)
  · obtain ⟨d, -, rfl⟩ := List.mem_map.mp (mem_of_mem_groups hpiece hc)
    exact .inr ⟨d, rfl⟩

/-! ## Spellings -/

/-- The digits of an identifier, each in either letter case. -/
def Digits (s : List Char) (id : Uuid) : Prop :=
  List.Forall₂ (fun c d ↦ c = Hex.lower d ∨ c = Hex.upper d) s id.digits

/-- Characters written in groups of eight, four, four, four and twelve, joined by hyphens. -/
def Grouped (s digits : List Char) : Prop :=
  ∃ parts : List (List Char), parts.map List.length = [8, 4, 4, 4, 12] ∧ parts.flatten = digits ∧
    s = ['-'].intercalate parts

/-- A text spells an identifier. -/
inductive Spells : List Char → Uuid → Prop
  | digits {s : List Char} {id : Uuid} (h : Digits s id) : Spells s id
  | hyphenated {s digits : List Char} {id : Uuid} (hs : Grouped s digits) (h : Digits digits id) :
      Spells s id
  | braced {s digits : List Char} {id : Uuid} (hs : Grouped s digits) (h : Digits digits id) :
      Spells ('\x7b' :: s ++ ['\x7d']) id
  | named {opening s digits : List Char} {id : Uuid}
      (hopening : opening.map Char.toLower = "urn:uuid:".toList) (hs : Grouped s digits)
      (h : Digits digits id) : Spells (opening ++ s) id

variable {s : List Char} {id : Uuid}

theorem Digits.length_eq (h : Digits s id) : s.length = 32 :=
  (List.Forall₂.length_eq h).trans id.length_digits

/-- No spelling of a digit is a hyphen, a brace, or the first letter of the name prefix. -/
theorem Digits.ne_of_mem (h : Digits s id) :
    ∀ c ∈ s, c ≠ '-' ∧ c ≠ '\x7b' ∧ c.toLower ≠ 'u' := by
  have hlower : ∀ d : Fin 16, Hex.lower d ≠ '-' ∧ Hex.lower d ≠ '\x7b' ∧
      (Hex.lower d).toLower ≠ 'u' := by decide
  have hupper : ∀ d : Fin 16, Hex.upper d ≠ '-' ∧ Hex.upper d ≠ '\x7b' ∧
      (Hex.upper d).toLower ≠ 'u' := by decide
  have hall : List.Forall₂ (fun c _ ↦ (c ≠ '-' ∧ c ≠ '\x7b' ∧ c.toLower ≠ 'u') ∧ True) s
      id.digits := by
    refine h.imp ?_
    rintro c d (rfl | rfl)
    · exact ⟨hlower d, trivial⟩
    · exact ⟨hupper d, trivial⟩
  exact ((List.forall₂_and_left _ _).mp hall).1

theorem Grouped.length_eq {digits : List Char} (h : Grouped s digits) : s.length = 36 := by
  obtain ⟨parts, hlengths, -, rfl⟩ := h
  simp only [List.map_eq_cons_iff, List.map_eq_nil_iff] at hlengths
  obtain ⟨a, _, rfl, ha, b, _, rfl, hb, c, _, rfl, hc, d, _, rfl, hd, e, _, rfl, he, rfl⟩ :=
    hlengths
  simp [List.intercalate, ha, hb, hc, hd, he]

/-- Groups begin with their first digit. -/
theorem Grouped.exists_cons {digits : List Char} (h : Grouped s digits) :
    ∃ c ∈ digits, ∃ rest, s = c :: rest := by
  obtain ⟨parts, hlengths, rfl, rfl⟩ := h
  obtain ⟨part, parts, rfl, hpart, -⟩ := List.map_eq_cons_iff.mp hlengths
  obtain ⟨first, rest, rfl⟩ := List.exists_cons_of_length_eq_add_one hpart
  refine ⟨first, by simp, ?_⟩
  cases parts with
  | nil => exact ⟨_, List.intercalate_singleton⟩
  | cons next parts => exact ⟨_, List.intercalate_cons_cons⟩

theorem ofDigits?_eq_some_iff : ofDigits? s = some id ↔ Digits s id := by
  have hdigits : Digits s id ↔ s.mapM Hex.value? = some id.digits := by
    simp only [Digits, mapM_eq_some_iff, Hex.value?_eq_some_iff]
  rw [hdigits, ofDigits?]
  cases s.mapM Hex.value? with
  | none => exact iff_of_false nofun nofun
  | some digits =>
    obtain ⟨digits', hlength⟩ := id
    simp only [Option.dite_none_right_eq_some, Option.some.injEq, mk.injEq, exists_prop]
    refine and_iff_right_of_imp ?_
    rintro rfl
    exact hlength

theorem ofGroups?_eq_some_iff :
    ofGroups? s = some id ↔ ∃ digits, Grouped s digits ∧ Digits digits id := by
  rw [ofGroups?, Option.ite_none_right_eq_some, ofDigits?_eq_some_iff]
  constructor
  · rintro ⟨hlengths, hdigits⟩
    exact ⟨_, ⟨_, hlengths, rfl, (List.intercalate_splitOn '-').symm⟩, hdigits⟩
  · rintro ⟨_, ⟨parts, hlengths, rfl, rfl⟩, hdigits⟩
    have hparts : parts ≠ [] := by
      rintro rfl
      cases hlengths
    have hhyphen : ∀ part ∈ parts, '-' ∉ part := fun part hpart hmem ↦
      (hdigits.ne_of_mem '-' (List.mem_flatten.mpr ⟨part, hpart, hmem⟩)).1 rfl
    rw [List.splitOn_intercalate '-' hhyphen hparts]
    exact ⟨hlengths, hdigits⟩

/-! ## Dresses -/

/-- What is left of groups in a dress. -/
theorem undressed_of_grouped {digits : List Char} (hs : Grouped s digits) (h : Digits digits id) :
    undressed s = s := by
  obtain ⟨c, hc, rest, rfl⟩ := hs.exists_cons
  obtain ⟨-, hbrace, hu⟩ := h.ne_of_mem c hc
  rw [undressed.eq_def]
  split
  · next heq => exact absurd (List.cons.inj heq).1 hbrace
  · exact if_neg fun hprefix ↦ hu (List.cons.inj hprefix).1

theorem undressed_braced : undressed ('\x7b' :: s ++ ['\x7d']) = s := by
  rw [List.cons_append, undressed, if_pos List.getLast?_concat, List.dropLast_concat]

theorem undressed_named {opening : List Char}
    (hopening : opening.map Char.toLower = "urn:uuid:".toList) : undressed (opening ++ s) = s := by
  have hlength : opening.length = 9 := by
    rw [← List.length_map, hopening]
    rfl
  rw [undressed.eq_def]
  split
  · next heq =>
    obtain ⟨c, rest, rfl⟩ := List.exists_cons_of_length_eq_add_one hlength
    rw [(List.cons.inj heq).1] at hopening
    cases hopening
  · rw [List.take_left' hlength, if_pos hopening, List.drop_left' hlength]

/-- Only a dress is taken off. -/
theorem eq_undressed_or (s : List Char) :
    undressed s = s ∨ s = '\x7b' :: undressed s ++ ['\x7d'] ∨
      ∃ opening : List Char, opening.map Char.toLower = "urn:uuid:".toList ∧
        s = opening ++ undressed s := by
  rw [undressed.eq_def]
  split
  · next rest =>
    split_ifs with hlast
    · refine .inr (.inl ?_)
      rw [List.cons_append, List.dropLast_append_getLast? _ hlast]
    · exact .inl rfl
  · split_ifs with hprefix
    · exact .inr (.inr ⟨_, hprefix, (List.take_append_drop 9 s).symm⟩)
    · exact .inl rfl

/-- **Reading accepts exactly the spellings.** -/
theorem parse?_eq_some_iff : parse? s = some id ↔ Spells s id := by
  rw [parse?]
  constructor
  · intro h
    split_ifs at h with hlength
    · exact .digits (ofDigits?_eq_some_iff.mp h)
    · obtain ⟨digits, hgrouped, hdigits⟩ := ofGroups?_eq_some_iff.mp h
      rcases eq_undressed_or s with heq | heq | ⟨opening, hopening, heq⟩
      · rw [heq] at hgrouped
        exact .hyphenated hgrouped hdigits
      · rw [heq]
        exact .braced hgrouped hdigits
      · rw [heq]
        exact .named hopening hgrouped hdigits
  · intro h
    -- of the four spellings only the bare digits are as many characters as digits
    cases h with
    | digits h => rw [if_pos h.length_eq, ofDigits?_eq_some_iff.mpr h]
    | hyphenated hs h =>
      rw [if_neg (by rw [hs.length_eq]; decide), undressed_of_grouped hs h]
      exact ofGroups?_eq_some_iff.mpr ⟨_, hs, h⟩
    | braced hs h =>
      rw [if_neg (by simp [hs.length_eq]), undressed_braced]
      exact ofGroups?_eq_some_iff.mpr ⟨_, hs, h⟩
    | named hopening hs h =>
      have hlength := congrArg List.length hopening
      rw [List.length_map] at hlength
      rw [if_neg (by simp [hs.length_eq, hlength]), undressed_named hopening]
      exact ofGroups?_eq_some_iff.mpr ⟨_, hs, h⟩

/-- An identifier is written in groups of lower-case digits. -/
theorem grouped_chars (id : Uuid) : Grouped id.chars (id.digits.map Hex.lower) := by
  have hlength : (id.digits.map Hex.lower).length = 32 := by
    rw [List.length_map, id.length_digits]
  refine ⟨groups groupLengths (id.digits.map Hex.lower), ?_, ?_, rfl⟩
  · exact map_length_groups (by rw [hlength]; decide)
  · rw [flatten_groups]
    exact List.take_of_length_le (by rw [hlength]; decide)

theorem digits_map_lower (id : Uuid) : Digits (id.digits.map Hex.lower) id :=
  List.forall₂_map_left_iff.mpr (List.forall₂_same.mpr fun _ _ ↦ .inl rfl)

/-- **An identifier is read as it is written.** -/
theorem parse?_chars (id : Uuid) : parse? id.chars = some id :=
  parse?_eq_some_iff.mpr (.hyphenated id.grouped_chars id.digits_map_lower)

theorem text_injective {id other : Uuid} (h : id.text = other.text) : id = other := by
  have hchars : id.chars = other.chars := String.ofList_injective h
  rw [← Option.some.injEq, ← parse?_chars, ← parse?_chars, hchars]

end Uuid

end ObjectConsole
