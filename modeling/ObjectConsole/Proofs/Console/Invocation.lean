import ObjectConsole.Console.Invocation
import ObjectConsole.Proofs.Text.Percent
import Mathlib.Data.List.Induction

/-!
# What an address invokes

The two halves of a call's address are read apart. A path is accepted exactly when it is a run of
slashes, a type name, one slash and a member's name (`target_eq_ok_iff`), and a query is read piece
by piece, so that reading turns pieces in a row into pairs in a row (`pairs_append`). A piece that
was written with encoded components (`Parameter.piece`) gives back the components.
-/

namespace ObjectConsole

open Text

/-! ## Queries -/

namespace Query

theorem pairs_append (front behind : List Char) :
    pairs (front ++ '&' :: behind) = pairs front ++ pairs behind := by
  rw [pairs, List.splitOn_append_cons_self, List.filter_append, List.map_append]
  rfl

theorem pairs_of_notMem {piece : List Char} (h : '&' ∉ piece) :
    pairs piece = if piece = [] then [] else [pair piece] := by
  rw [pairs, List.splitOn_eq_singleton h]
  by_cases hnil : piece = []
  · rw [if_pos hnil, List.filter_cons_of_neg (by simp [hnil]), List.filter_nil, List.map_nil]
  · rw [if_neg hnil, List.filter_cons_of_pos (by simp [hnil]), List.filter_nil, List.map_cons,
      List.map_nil]

/-- Pieces that each stand behind a separator are read one by one, the empty ones not at all. -/
theorem pairs_flatMap {pieces : List (List Char)} (h : ∀ piece ∈ pieces, '&' ∉ piece) :
    pairs (pieces.flatMap fun piece ↦ '&' :: piece) =
      (pieces.filter fun piece ↦ piece ≠ []).map pair := by
  induction pieces using List.reverseRecOn with
  | nil => rfl
  | append_singleton pieces piece ih =>
    rw [List.forall_mem_append, List.forall_mem_singleton] at h
    rw [List.flatMap_append, List.flatMap_singleton, pairs_append, ih h.1, pairs_of_notMem h.2,
      List.filter_append, List.map_append]
    by_cases hnil : piece = [] <;> simp [hnil]

theorem pair_encode (key : String) : pair (Percent.encodeChars key.toList) = (key, none) := by
  have hcut : cut? '=' (Percent.encodeChars key.toList) = none :=
    cut?_eq_none_iff.mpr (Percent.notMem_encodeChars (by decide) (by decide))
  rw [pair, hcut]
  simp only [Percent.decodeChars_encodeChars, String.ofList_toList]

theorem pair_encode_text (key text : String) :
    pair (Percent.encodeChars key.toList ++ '=' :: Percent.encodeChars text.toList) =
      (key, some text) := by
  have hcut : cut? '=' (Percent.encodeChars key.toList ++ '=' :: Percent.encodeChars text.toList) =
      some (Percent.encodeChars key.toList, Percent.encodeChars text.toList) :=
    cut?_eq_some_iff.mpr ⟨rfl, Percent.notMem_encodeChars (by decide) (by decide)⟩
  rw [pair, hcut]
  simp only [Percent.decodeChars_encodeChars, String.ofList_toList]

end Query

namespace Parameter

/-- The piece of a query that a parameter is written as. -/
def piece (parameter : Parameter) : List Char :=
  Percent.encodeChars parameter.type.toList ++
    match parameter.text with
    | none => []
    | some text => '=' :: Percent.encodeChars text.toList

theorem separator_notMem_piece (parameter : Parameter) : '&' ∉ parameter.piece := by
  have hfree (text : String) : '&' ∉ Percent.encodeChars text.toList :=
    Percent.notMem_encodeChars (by decide) (by decide)
  rw [piece]
  cases parameter.text <;> simp [hfree]

/-- Nothing is left of a parameter that has neither a type nor a text. -/
theorem piece_ne_nil_iff (parameter : Parameter) :
    parameter.piece ≠ [] ↔ (parameter.type = "" → parameter.text ≠ none) := by
  rw [piece]
  cases parameter.text <;> simp [Percent.encodeChars_eq_nil_iff]

theorem pair_piece (parameter : Parameter) :
    Query.pair parameter.piece = (parameter.type, parameter.text) := by
  rw [piece]
  cases parameter.text with
  | none => rw [List.append_nil, Query.pair_encode]
  | some text => exact Query.pair_encode_text parameter.type text

end Parameter

namespace Query

/-- Written parameters are read back in order, the empty ones not at all. -/
theorem pairs_pieces (parameters : List Parameter) :
    pairs ((parameters.map Parameter.piece).flatMap fun piece ↦ '&' :: piece) =
      (parameters.filter fun parameter ↦ parameter.type = "" → parameter.text ≠ none).map
        fun parameter ↦ (parameter.type, parameter.text) := by
  have hfree : ∀ piece ∈ parameters.map Parameter.piece, '&' ∉ piece := by
    simp [Parameter.separator_notMem_piece]
  rw [pairs_flatMap hfree, List.filter_map, List.map_map]
  simp only [Function.comp_def, Parameter.piece_ne_nil_iff, Parameter.pair_piece]

end Query

/-! ## Paths -/

theorem dropSlashes_replicate_append (n : Nat) {s : List Char} (h : s.head? ≠ some '/') :
    dropSlashes (List.replicate n '/' ++ s) = s := by
  rw [dropSlashes, List.dropWhile_append, List.dropWhile_replicate]
  cases s with
  | nil => simp
  | cons c s =>
    have hc : c ≠ '/' := fun hc ↦ h (by rw [hc, List.head?_cons])
    simp [hc]

theorem exists_replicate_dropSlashes (s : List Char) :
    ∃ n, s = List.replicate n '/' ++ dropSlashes s := by
  induction s with
  | nil => exact ⟨0, rfl⟩
  | cons c s ih =>
    by_cases hc : c = '/'
    · obtain ⟨n, hn⟩ := ih
      refine ⟨n + 1, ?_⟩
      rw [dropSlashes, List.dropWhile_cons_of_pos (by simp [hc]), ← dropSlashes,
        List.replicate_succ, List.cons_append, ← hn, hc]
    · refine ⟨0, ?_⟩
      rw [dropSlashes, List.dropWhile_cons_of_neg (by simp [hc])]
      rfl

namespace Invocation

/-- A path names a member of a type exactly when it is a run of slashes, the type's name, a slash
and the member's name. The type's name ends at the first slash, the member's name may have more of
them. -/
theorem target_eq_ok_iff {path typeName member : List Char} :
    target path = .ok (typeName, member) ↔
      (typeName ≠ [] ∧ '/' ∉ typeName ∧ member ≠ []) ∧
        ∃ n, path = List.replicate n '/' ++ typeName ++ '/' :: member := by
  constructor
  · intro h
    rw [target] at h
    split at h
    · cases h
    · next hcut =>
      split_ifs at h with hempty
      cases h
      rw [not_or] at hempty
      obtain ⟨hpath, hmem⟩ := cut?_eq_some_iff.mp hcut
      obtain ⟨n, hn⟩ := exists_replicate_dropSlashes path
      rw [hpath, ← List.append_assoc] at hn
      exact ⟨⟨hempty.1, hmem, hempty.2⟩, n, hn⟩
  · rintro ⟨⟨htype, hslash, hmember⟩, n, rfl⟩
    -- dropping slashes stops at the type's name, because that is neither empty nor begins with one
    have hhead : (typeName ++ '/' :: member).head? ≠ some '/' := by
      obtain ⟨c, cs, rfl⟩ := List.exists_cons_of_ne_nil htype
      rw [List.cons_append, List.head?_cons]
      rintro ⟨⟩
      exact hslash List.mem_cons_self
    have hcut : cut? '/' (typeName ++ '/' :: member) = some (typeName, member) :=
      cut?_eq_some_iff.mpr ⟨rfl, hslash⟩
    rw [target, List.append_assoc, dropSlashes_replicate_append n hhead, hcut]
    exact if_neg (not_or.mpr ⟨htype, hmember⟩)

end Invocation

end ObjectConsole
