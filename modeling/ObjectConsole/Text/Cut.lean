/-!
# Cutting text

Addresses, queries and reference tokens are taken apart by few cuts: at the first occurrence of a
separator, at every occurrence (`List.splitOn`, or `pieces` for a separator of several characters),
and behind a fixed opening. They are functions on lists of characters, and the first and the last
are pinned down by the one equation that puts their pieces together again.
-/

namespace ObjectConsole.Text

/-- The parts before and after the first `sep`; nothing when `sep` does not occur. -/
def cut? (sep : Char) : List Char → Option (List Char × List Char)
  | [] => none
  | c :: rest =>
    if c = sep then some ([], rest) else (cut? sep rest).map fun parts ↦ (c :: parts.1, parts.2)

theorem cut?_eq_some_iff {sep : Char} {s before after : List Char} :
    cut? sep s = some (before, after) ↔ s = before ++ sep :: after ∧ sep ∉ before := by
  induction s generalizing before with
  | nil => simp [cut?]
  | cons c rest ih =>
    by_cases h : c = sep
    · cases before <;> simp_all [cut?, eq_comm]
    · cases before with
      | nil => simp [cut?, h]
      | cons b bs =>
        simp only [cut?, h, if_false, Option.map_eq_some_iff, Prod.exists, Prod.mk.injEq,
          List.cons.injEq, List.cons_append, List.mem_cons, not_or]
        constructor
        · rintro ⟨x, y, hxy, ⟨rfl, rfl⟩, rfl⟩
          have := ih.1 hxy
          exact ⟨⟨rfl, this.1⟩, Ne.symm h, this.2⟩
        · rintro ⟨⟨rfl, hrest⟩, _, hmem⟩
          exact ⟨bs, after, ih.2 ⟨hrest, hmem⟩, ⟨rfl, rfl⟩, rfl⟩

theorem cut?_eq_none_iff {sep : Char} {s : List Char} : cut? sep s = none ↔ sep ∉ s := by
  induction s with
  | nil => simp [cut?]
  | cons c rest ih =>
    by_cases h : c = sep
    · simp [cut?, h]
    · simp [cut?, h, ih, Ne.symm h]

/-- What follows `opening` at the start of a text; nothing when the text starts otherwise. -/
def behind? : List Char → List Char → Option (List Char)
  | [], s => some s
  | _ :: _, [] => none
  | p :: ps, c :: cs => if p = c then behind? ps cs else none

theorem behind?_eq_some_iff {opening s rest : List Char} :
    behind? opening s = some rest ↔ s = opening ++ rest := by
  induction opening generalizing s with
  | nil => simp [behind?]
  | cons p ps ih =>
    cases s with
    | nil => simp [behind?]
    | cons c cs => by_cases h : p = c <;> simp_all [behind?, eq_comm]

/-- What follows `opening`, or the whole text when it starts otherwise. -/
def behind (opening s : List Char) : List Char :=
  (behind? opening s).getD s

theorem behind_append (opening rest : List Char) : behind opening (opening ++ rest) = rest := by
  rw [behind, behind?_eq_some_iff.mpr rfl, Option.getD_some]

theorem behind_cons_of_ne {d c : Char} (h : d ≠ c) (opening rest : List Char) :
    behind (d :: opening) (c :: rest) = c :: rest := by
  rw [behind, behind?, if_neg h, Option.getD_none]

/-- The text without its leading slashes. -/
def dropSlashes (s : List Char) : List Char :=
  s.dropWhile (· == '/')

/-- The pieces of a text between occurrences of a separator that do not overlap, found from the
left; the first `skip` characters belong to an occurrence already found. -/
def piecesFrom (sep : List Char) : Nat → List Char → List (List Char)
  | _, [] => [[]]
  | skip + 1, _ :: rest => piecesFrom sep skip rest
  | 0, c :: rest =>
    if sep.isPrefixOf (c :: rest) then [] :: piecesFrom sep (sep.length - 1) rest
    else (piecesFrom sep 0 rest).modifyHead (c :: ·)

/-- The pieces of a text between occurrences of a nonempty separator. -/
def pieces (sep s : List Char) : List (List Char) :=
  piecesFrom sep 0 s

end ObjectConsole.Text
