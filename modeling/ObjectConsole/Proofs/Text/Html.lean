import ObjectConsole.Text.Escaping
import ObjectConsole.Proofs.Text.Decimal

/-!
# Text shown by markup

A page is read by its visitors, who see the characters that references stand for. `unescapeChars` is
that reading, of any text whatever, and an escaped text is shown as the text it was made from. It
cannot be mistaken for markup either (`Harmless`): the characters that markup begins and ends with
do not occur in it, and its ampersands belong to references that are complete.
-/

namespace ObjectConsole.Text.Html

/-! ## Reading references -/

/-- Reads a text of a page: each complete decimal reference as the character it names, from the
left, and everything else as it stands. -/
def unescapeChars : List Char → List Char
  | [] => []
  | '&' :: '#' :: rest =>
    match _hread : Decimal.leading rest with
    | (d :: ds, ';' :: behind) => Char.ofNat (Decimal.number (d :: ds)) :: unescapeChars behind
    | _ => '&' :: unescapeChars ('#' :: rest)
  | c :: rest => c :: unescapeChars rest
termination_by s => s.length
decreasing_by
  · have hle := Decimal.length_snd_leading_le rest
    rw [_hread, List.length_cons] at hle
    simp only [List.length_cons]
    omega
  all_goals simp

/-- The text that a page shows where `s` is written. -/
def unescape (s : String) : String :=
  String.ofList (unescapeChars s.toList)

theorem unescapeChars_cons_of_ne {c : Char} (h : c ≠ '&') (rest : List Char) :
    unescapeChars (c :: rest) = c :: unescapeChars rest := by
  rw [unescapeChars.eq_def]
  split
  · next heq => cases heq
  · next heq => exact absurd (List.cons.inj heq).1 h
  · next heq =>
    obtain ⟨rfl, rfl⟩ := List.cons.inj heq
    rfl

theorem unescapeChars_reference_append (c : Char) (rest : List Char) :
    unescapeChars (reference c ++ rest) = c :: unescapeChars rest := by
  -- the digits end at the semicolon, whatever stands behind the reference
  have hend : ∀ d ∈ (';' :: rest).head?, Decimal.value? d = none := by
    rintro d ⟨⟩
    decide
  obtain ⟨digits, hread, hne, hnumber⟩ := Decimal.leading_ofNat_append c.toNat hend
  obtain ⟨d, ds, rfl⟩ := List.exists_cons_of_ne_nil hne
  rw [reference, List.cons_append, List.cons_append, List.append_assoc, List.singleton_append,
    unescapeChars]
  split
  · next heq =>
    rw [hread] at heq
    cases heq
    rw [hnumber, Char.ofNat_toNat]
  · next hno => exact absurd hread (hno _ _ _)

theorem unescapeChars_escapeChar_append (c : Char) (rest : List Char) :
    unescapeChars (escapeChar c ++ rest) = c :: unescapeChars rest := by
  rw [escapeChar]
  by_cases h : escaped c
  · rw [if_pos h, unescapeChars_reference_append]
  · have hne : c ≠ '&' := by
      rintro rfl
      exact h (by decide)
    rw [if_neg h, List.singleton_append, unescapeChars_cons_of_ne hne]

/-- A text in front of anything is shown as it is, and what stands behind is shown as if it stood
alone. -/
theorem unescapeChars_escapeChars_append (text rest : List Char) :
    unescapeChars (escapeChars text ++ rest) = text ++ unescapeChars rest := by
  induction text with
  | nil => rfl
  | cons c text ih =>
    rw [escapeChars, List.flatMap_cons, List.append_assoc, unescapeChars_escapeChar_append,
      ← escapeChars, ih, List.cons_append]

@[simp] theorem unescapeChars_escapeChars (text : List Char) :
    unescapeChars (escapeChars text) = text := by
  have h := unescapeChars_escapeChars_append text []
  rwa [List.append_nil, unescapeChars, List.append_nil] at h

@[simp] theorem unescape_escape (text : String) : unescape (escape text) = text := by
  rw [unescape, toList_escape, unescapeChars_escapeChars, String.ofList_toList]

/-! ## Text without references -/

/-- A text without characters to escape stands in a page as it is. -/
theorem escapeChars_eq_self {text : List Char} (h : ∀ c ∈ text, escaped c = false) :
    escapeChars text = text := by
  induction text with
  | nil => rfl
  | cons c text ih =>
    rw [List.forall_mem_cons] at h
    rw [escapeChars, List.flatMap_cons, escapeChar, h.1, ← escapeChars, ih h.2]
    rfl

theorem escaped_of_all {text : List Char} (h : (text.all fun c ↦ !escaped c) = true) :
    ∀ c ∈ text, escaped c = false := by
  simpa using h

theorem escaped_of_isDigit {c : Char} (h : c.isDigit = true) : escaped c = false := by
  have hmarks : c ∉ "\"<>&".toList := by
    intro hmem
    simp only [String.reduceToList, List.mem_cons, List.not_mem_nil, or_false] at hmem
    rcases hmem with rfl | rfl | rfl | rfl <;> exact absurd h (by decide)
  have hascii : c.toNat ≤ 57 := by
    rw [Char.isDigit, Bool.and_eq_true, decide_eq_true_iff, decide_eq_true_iff] at h
    exact h.2
  simp only [escaped, Bool.or_eq_false_iff, decide_eq_false_iff_not, List.contains_eq_mem]
  exact ⟨by omega, hmarks⟩

/-! ## Text that is no markup -/

/-- A stretch of a page that begins and ends nothing there: it is ASCII without angle brackets and
quotes, and each ampersand in it begins a decimal reference that is complete. -/
structure Harmless (s : List Char) : Prop where
  ascii : ∀ c ∈ s, c.toNat ≤ 0x7F
  no_markup : ∀ c ∈ s, c ≠ '<' ∧ c ≠ '>' ∧ c ≠ '"'
  references : ∀ before after, s = before ++ '&' :: after →
    ∃ digits rest, digits ≠ [] ∧ (∀ d ∈ digits, d.isDigit = true) ∧
      after = '#' :: digits ++ ';' :: rest

namespace Harmless

theorem append {s t : List Char} (hs : Harmless s) (ht : Harmless t) : Harmless (s ++ t) where
  ascii := List.forall_mem_append.mpr ⟨hs.ascii, ht.ascii⟩
  no_markup := List.forall_mem_append.mpr ⟨hs.no_markup, ht.no_markup⟩
  references := by
    intro before after h
    rcases List.append_eq_append_iff.mp h with ⟨middle, rfl, ht'⟩ | ⟨middle, hs', hafter⟩
    · exact ht.references middle after ht'
    · cases middle with
      | nil => exact ht.references [] after hafter.symm
      | cons c middle =>
        obtain ⟨rfl, rfl⟩ := List.cons.inj hafter
        obtain ⟨digits, rest, hne, hdigits, rfl⟩ := hs.references before middle hs'
        exact ⟨digits, rest ++ t, hne, hdigits, by simp⟩

/-- Characters that need no reference are harmless wherever they stand. -/
theorem of_escaped {s : List Char} (h : ∀ c ∈ s, escaped c = false) : Harmless s where
  ascii c hc := by
    have hc := h c hc
    rw [escaped, Bool.or_eq_false_iff, decide_eq_false_iff_not, Nat.not_lt] at hc
    exact hc.1
  no_markup c hc := by
    have hc := h c hc
    refine ⟨?_, ?_, ?_⟩ <;> rintro rfl <;> exact absurd hc (by decide)
  references before after hs := by
    have hc := h '&' (by rw [hs]; exact List.mem_append_right _ List.mem_cons_self)
    exact absurd hc (by decide)

theorem reference (c : Char) : Harmless (reference c) := by
  have hplain : ∀ d ∈ '#' :: (Decimal.ofNat c.toNat ++ [';']), escaped d = false := by
    intro d hd
    simp only [List.mem_cons, List.mem_append, List.not_mem_nil, or_false] at hd
    rcases hd with rfl | hdigit | rfl
    · decide
    · exact escaped_of_isDigit (Decimal.isDigit_of_mem_ofNat hdigit)
    · decide
  have hbehind := of_escaped hplain
  refine ⟨?_, ?_, ?_⟩
  · exact List.forall_mem_cons.mpr ⟨by decide, hbehind.ascii⟩
  · exact List.forall_mem_cons.mpr ⟨by decide, hbehind.no_markup⟩
  · intro before after h
    cases before with
    | nil =>
      refine ⟨Decimal.ofNat c.toNat, [], Decimal.ofNat_ne_nil _,
        fun d ↦ Decimal.isDigit_of_mem_ofNat, ?_⟩
      exact (List.cons.inj h).2.symm
    | cons d before => exact hbehind.references before after (List.cons.inj h).2

theorem escapeChars (text : List Char) : Harmless (escapeChars text) := by
  induction text with
  | nil => exact of_escaped nofun
  | cons c text ih =>
    rw [Html.escapeChars, List.flatMap_cons]
    refine append ?_ ih
    rw [escapeChar]
    split_ifs with h
    · exact reference c
    · exact of_escaped (by simpa using h)

theorem escape (text : String) : Harmless (escape text).toList := by
  rw [toList_escape]
  exact escapeChars text.toList

end Harmless

/-- Characters that no escaped text has: the page's own markup begins and ends with them. -/
theorem notMem_escapeChars {text : List Char} {c : Char} (h : c = '<' ∨ c = '>' ∨ c = '"') :
    c ∉ escapeChars text := by
  intro hmem
  obtain ⟨hopen, hclose, hquote⟩ := (Harmless.escapeChars text).no_markup c hmem
  rcases h with rfl | rfl | rfl
  · exact hopen rfl
  · exact hclose rfl
  · exact hquote rfl

end ObjectConsole.Text.Html
