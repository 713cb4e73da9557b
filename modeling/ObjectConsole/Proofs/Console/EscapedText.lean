import ObjectConsole.Console.Page
import ObjectConsole.Proofs.Text.Html

/-!
# Escaping loses nothing

A text may look like a piece of a page before it is escaped: it may hold ampersands, digits and
semicolons, and whole references. What an escaped text shows is given by `Shows`, which knows how
references are spelled and nothing of escaping. There is exactly one text that an escaped text
shows, and it is the one that was escaped: an ampersand of its own is written as a reference, so
what follows that reference is never taken for the rest of another one.

A failure is shown with its causes in one line. The separator needs no escaping, so it does not
matter whether the messages are escaped before they are joined or after.
-/

namespace ObjectConsole

namespace Text.Html

/-! ## What a page shows -/

/-- What a stretch of a page shows, all of whose ampersands begin references: any other character
stands for itself, and a reference for the character whose code its digits spell. -/
inductive Shows : List Char → List Char → Prop
  | nil : Shows [] []
  | plain {c : Char} {s shown : List Char} (hne : c ≠ '&') (h : Shows s shown) :
      Shows (c :: s) (c :: shown)
  | reference {c : Char} {digits s shown : List Char} (hne : digits ≠ [])
      (hdigits : ∀ d ∈ digits, d.isDigit = true) (hcode : Nat.ofDigitChars 10 digits 0 = c.toNat)
      (h : Shows s shown) : Shows ('&' :: '#' :: (digits ++ ';' :: s)) (c :: shown)

theorem unescapeChars_of_digits {digits : List Char} (hne : digits ≠ [])
    (hdigits : ∀ d ∈ digits, d.isDigit = true) (rest : List Char) :
    unescapeChars ('&' :: '#' :: (digits ++ ';' :: rest)) =
      Char.ofNat (Nat.ofDigitChars 10 digits 0) :: unescapeChars rest := by
  have hend : ∀ d ∈ (';' :: rest).head?, Decimal.value? d = none := by
    rintro d ⟨⟩
    decide
  have hread := Decimal.leading_of_digits hdigits hend
  obtain ⟨d, ds, rfl⟩ := List.exists_cons_of_ne_nil hne
  rw [unescapeChars]
  split
  · next heq =>
    rw [hread] at heq
    cases heq
    rw [← Decimal.number_map_digits, List.map_cons]
  · next hno => exact absurd hread (hno _ _ _)

/-- Reading references gives what a stretch shows, whatever stands behind it. -/
theorem Shows.unescapeChars_append {s shown : List Char} (h : Shows s shown) (rest : List Char) :
    unescapeChars (s ++ rest) = shown ++ unescapeChars rest := by
  induction h with
  | nil => rfl
  | plain hne _ ih => rw [List.cons_append, unescapeChars_cons_of_ne hne, ih, List.cons_append]
  | reference hne hdigits hcode _ ih =>
    rw [List.cons_append, List.cons_append, List.append_assoc, List.cons_append,
      unescapeChars_of_digits hne hdigits, hcode, Char.ofNat_toNat, ih, List.cons_append]

theorem shows_escapeChar_append (c : Char) {s shown : List Char} (h : Shows s shown) :
    Shows (escapeChar c ++ s) (c :: shown) := by
  rw [escapeChar]
  split_ifs with hescaped
  · have hreference : reference c ++ s = '&' :: '#' :: (Decimal.ofNat c.toNat ++ ';' :: s) := by
      simp [reference]
    rw [hreference]
    exact .reference (Decimal.ofNat_ne_nil _) (fun d ↦ Decimal.isDigit_of_mem_ofNat)
      Nat.ofDigitChars_ten_toDigits h
  · have hne : c ≠ '&' := by
      rintro rfl
      exact hescaped (by decide)
    exact .plain hne h

theorem shows_escapeChars (text : List Char) : Shows (escapeChars text) text := by
  induction text with
  | nil => exact .nil
  | cons c text ih => exact shows_escapeChar_append c ih

theorem shows_escape_iff {text : String} {shown : List Char} :
    Shows (escape text).toList shown ↔ shown = text.toList := by
  rw [toList_escape]
  constructor
  · intro h
    have hshown := h.unescapeChars_append []
    have htext := (shows_escapeChars text.toList).unescapeChars_append []
    exact List.append_cancel_right (hshown.symm.trans htext)
  · rintro rfl
    exact shows_escapeChars text.toList

theorem unescape_escape_append (text behind : String) :
    unescape (escape text ++ behind) = text ++ unescape behind := by
  rw [unescape, String.toList_append, toList_escape, unescapeChars_escapeChars_append,
    String.ofList_append, String.ofList_toList, unescape]

theorem escape_intercalate (separator : String) (texts : List String) :
    escape (separator.intercalate texts) = (escape separator).intercalate (texts.map escape) := by
  induction texts with
  | nil => rfl
  | cons first texts ih =>
    cases texts with
    | nil => rfl
    | cons second texts =>
      rw [String.intercalate_cons_cons, escape_append, escape_append, ih, List.map_cons,
        List.map_cons, List.map_cons, String.intercalate_cons_cons]

end Text.Html

open Text

/-- The messages of a failure may be escaped before they are joined. -/
theorem Failure.escape_text (failure : Failure) :
    Html.escape failure.text = ": ".intercalate (failure.chain.map Html.escape) := by
  have hseparator : Html.escape ": " = ": " := by decide
  rw [Failure.text, Html.escape_intercalate, hseparator]

/-- **Escaping is lossless.** An escaped text is harmless, and shows the text that it was made from
and no other; also in front of anything else it is read back exactly. A concatenation is escaped
part by part, and different texts are escaped differently. So a failure is shown by its messages,
each escaped for itself, and reading the line gives back the messages. -/
theorem Text.Html.escape_lossless :
    (∀ text, Harmless (escape text).toList) ∧
    (∀ text shown, Shows (escape text).toList shown ↔ shown = text.toList) ∧
    (∀ text, unescape (escape text) = text ∧
      ∀ behind, unescape (escape text ++ behind) = text ++ unescape behind) ∧
    (∀ text text', escape (text ++ text') = escape text ++ escape text') ∧
    Function.Injective escape ∧
    ∀ failure : Failure,
      let shown := ": ".intercalate (failure.chain.map escape)
      escape failure.text = shown ∧ unescape shown = ": ".intercalate failure.chain ∧
        ∀ signature, failureLine signature failure = escape signature ++ " !! " ++ shown := by
  refine ⟨.escape, fun text shown ↦ shows_escape_iff,
    fun text ↦ ⟨unescape_escape text, unescape_escape_append text⟩, escape_append,
    Function.LeftInverse.injective unescape_escape, fun failure ↦ ?_⟩
  intro shown
  have hshown : escape failure.text = shown := failure.escape_text
  refine ⟨hshown, ?_, fun signature ↦ by rw [failureLine, hshown]⟩
  rw [← hshown, unescape_escape, Failure.text]

end ObjectConsole
