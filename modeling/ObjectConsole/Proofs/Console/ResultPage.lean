import ObjectConsole.Console.Page
import ObjectConsole.Proofs.Reference.Uuid
import ObjectConsole.Proofs.Text.Html

/-!
# The link on a page of a result

A page of a result ends with its link, so the link can be told from the end of the page, whatever
the line above it shows. A page without a link does not end like one with a link (`resultPage_ne`),
the page of a type's members ends like neither, and two pages that are the same link to the same
identifier (`id_eq_of_resultPage_eq`).
-/

namespace ObjectConsole

open Text

/-- The part behind the last occurrence of a character. -/
theorem eq_of_append_cons_eq {α : Type} {a : α} {front front' behind behind' : List α}
    (h : front ++ a :: behind = front' ++ a :: behind') (ha : a ∉ behind) (ha' : a ∉ behind') :
    behind = behind' := by
  rcases List.append_eq_append_iff.mp h with ⟨between, -, hbehind⟩ | ⟨between, -, hbehind⟩
  · cases between with
    | nil => exact (List.cons.inj hbehind).2
    | cons b between =>
      rw [List.cons_append, List.cons.injEq] at hbehind
      exact absurd (hbehind.2 ▸ List.mem_append_right _ List.mem_cons_self) ha
  · cases between with
    | nil => exact (List.cons.inj hbehind).2.symm
    | cons b between =>
      rw [List.cons_append, List.cons.injEq] at hbehind
      exact absurd (hbehind.2 ▸ List.mem_append_right _ List.mem_cons_self) ha'

theorem toList_resultPage (line link : String) :
    (resultPage line link).toList =
      "<html><body><p>".toList ++ line.toList ++ "</p><p>".toList ++ link.toList ++
        "</p></body></html>".toList := by
  unfold resultPage
  rw [String.toList_append, String.toList_append, String.toList_append, String.toList_append]

/-- A link ends with its text, behind the last bracket before its end tag. -/
theorem exists_toList_valueLink (v : Value) (token : Token) :
    ∃ front, (valueLink v token).toList =
      front ++ '>' :: Html.escapeChars token.text.toList ++ "</a>".toList := by
  have hquote : "\">".toList = ['"', '>'] := by decide
  refine ⟨"<a href=\"".toList ++ (Html.escape (Address.ofValue v token)).toList ++ ['"'], ?_⟩
  rw [valueLink, anchor, String.toList_append, String.toList_append, String.toList_append,
    String.toList_append, Html.toList_escape token.text, hquote]
  simp only [List.append_assoc, List.cons_append, List.nil_append]

theorem resultPage_ne (line line' : String) (v : Value) (token : Token) :
    resultPage line "" ≠ resultPage line' (valueLink v token) := by
  intro h
  obtain ⟨front, hlink⟩ := exists_toList_valueLink v token
  -- in front of the common end stand three characters that differ
  have hp : "</p><p>".toList = "</p>".toList ++ "<p>".toList := by decide
  have ha : "</a>".toList = "<".toList ++ "/a>".toList := by decide
  have hchars := congrArg String.toList h
  rw [toList_resultPage, toList_resultPage, List.append_left_inj, String.toList_empty,
    List.append_nil, hlink, hp, ha, ← List.append_assoc, ← List.append_assoc,
    ← List.append_assoc] at hchars
  exact absurd (List.append_inj_right' hchars (by decide)) (by decide)

theorem MembersPage.markup_ne (page : MembersPage) (line link : String) :
    page.markup ≠ resultPage line link := by
  intro h
  have hul : "</ul>".toList = "</".toList ++ "ul>".toList := by decide
  have hp : "</p></body></html>".toList =
      "<".toList ++ "/p>".toList ++ "</body></html>".toList := by
    decide
  have hchars := congrArg String.toList h
  unfold markup list at hchars
  rw [toList_resultPage, hp] at hchars
  simp only [String.toList_append, hul, ← List.append_assoc, List.append_left_inj] at hchars
  exact absurd (List.append_inj_right' hchars (by decide)) (by decide)

theorem id_eq_of_resultPage_eq {line line' : String} {v v' : Value} {id id' : Uuid}
    (h : resultPage line (valueLink v (.ephemeral id)) =
      resultPage line' (valueLink v' (.ephemeral id'))) : id = id' := by
  obtain ⟨front, hlink⟩ := exists_toList_valueLink v (.ephemeral id)
  obtain ⟨front', hlink'⟩ := exists_toList_valueLink v' (.ephemeral id')
  have hchars := congrArg String.toList h
  simp only [toList_resultPage, hlink, hlink', ← List.append_assoc, List.append_left_inj] at hchars
  -- the link's text stands behind the last bracket, since an escaped text has none
  have hescaped := eq_of_append_cons_eq hchars (Html.notMem_escapeChars (.inr (.inl rfl)))
    (Html.notMem_escapeChars (.inr (.inl rfl)))
  have htext := congrArg Html.unescapeChars hescaped
  rw [Html.unescapeChars_escapeChars, Html.unescapeChars_escapeChars, String.toList_inj,
    Token.text, Token.text, String.append_left_inj, String.append_right_inj] at htext
  exact Uuid.text_injective htext

end ObjectConsole
