import ObjectConsole.Proofs.Reference.Uuid
import ObjectConsole.Proofs.Text.Percent
import ObjectConsole.Reference.Token

/-!
# Tokens are read as they are written

A token is written with the mark of its kind in front, and reading looks at the mark first. Behind
it stands an identifier, which is read as it is written, or a name, which is taken whole. The one
token that is not read back is the empty name, since reading refuses it (`Token.parse_text_iff`).
-/

namespace ObjectConsole

open Text

namespace Token

variable (id : Uuid) (name : String)

theorem toList_text_ephemeral : (ephemeral id).text.toList = '[' :: (id.chars ++ [']']) := by
  simp [text, Uuid.text]

theorem toList_text_persistent : (persistent name).text.toList = '$' :: name.toList := by
  simp [text]

theorem readEphemeral_text : readEphemeral (ephemeral id).text.toList = .ok id := by
  rw [toList_text_ephemeral, readEphemeral, if_pos List.getLast?_concat, List.dropLast_concat,
    Uuid.parse?_chars]
  rfl

theorem parseEphemeral_text : parseEphemeral (ephemeral id).text = .ok id := by
  rw [parseEphemeral, readEphemeral_text]
  rfl

/-- **A token is read as it is written**, unless it is the empty name. -/
theorem parse_text_iff (token : Token) : parse token.text = .ok token ↔ token ≠ .persistent "" := by
  cases token with
  | ephemeral id =>
    refine iff_of_true ?_ nofun
    have hread := readEphemeral_text id
    rw [parse, toList_text_ephemeral, read, ← toList_text_ephemeral, hread]
    rfl
  | persistent name =>
    rw [parse, toList_text_persistent, ne_eq, persistent.injEq, ← String.toList_eq_nil_iff]
    cases hname : name.toList with
    | nil => exact iff_of_false nofun (not_not_intro rfl)
    | cons c rest =>
      refine iff_of_true ?_ (List.cons_ne_nil c rest)
      rw [read, ← hname, String.ofList_toList]
      · rfl
      · exact nofun

variable {name} in
theorem parse_text_persistent (hname : name ≠ "") :
    parse (persistent name).text = .ok (.persistent name) := by
  rw [parse_text_iff, ne_eq, persistent.injEq]
  exact hname

/-- The text of an identifier's token has no escapes. -/
theorem percent_notMem_text_ephemeral : '%' ∉ (ephemeral id).text.toList := by
  have hdigit : ∀ d : Fin 16, '%' ≠ Hex.lower d := by decide
  rw [toList_text_ephemeral]
  intro hmem
  rw [List.mem_cons, List.mem_append, List.mem_singleton] at hmem
  rcases hmem with hopening | hchars | hclosing
  · cases hopening
  · rcases Uuid.eq_hyphen_or_of_mem_chars hchars with hhyphen | ⟨d, hd⟩
    · cases hhyphen
    · exact hdigit d hd
  · cases hclosing

end Token

end ObjectConsole
