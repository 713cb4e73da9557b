import ObjectConsole.Proofs.Text.Percent

/-!
# What components look like

A component is put between the separators of an address, so it matters what it cannot contain. Its
grammar is `Component`: visible ASCII characters other than the `marks` stand for themselves, and
the percent sign only ever begins an escape of two hexadecimal digits. Whatever text is encoded, the
result is of this form, and no separator can be mistaken for a part of it. Joined components
therefore come apart again where they were joined, and each gives back the text that it was made
from.
-/

namespace ObjectConsole.Text.Percent

/-- The characters with a meaning in addresses or around them, and the space. -/
def marks : List Char :=
  " \"#&+/<=>?".toList

/-- The digits that escapes are written with. -/
def hexDigits : List Char :=
  "0123456789ABCDEF".toList

/-- A visible ASCII character. -/
def Visible (c : Char) : Prop :=
  0x20 < c.toNat ∧ c.toNat < 0x7F

instance (c : Char) : Decidable (Visible c) :=
  inferInstanceAs (Decidable (_ ∧ _))

/-- The grammar of components. -/
inductive Component : List Char → Prop
  | nil : Component []
  | plain {c : Char} {rest : List Char} (hvisible : Visible c) (hmark : c ∉ marks)
      (hpercent : c ≠ '%') (h : Component rest) : Component (c :: rest)
  | escape {high low : Char} {rest : List Char} (hhigh : high ∈ hexDigits)
      (hlow : low ∈ hexDigits) (h : Component rest) : Component ('%' :: high :: low :: rest)

namespace Component

variable {s t : List Char}

theorem append (hs : Component s) (ht : Component t) : Component (s ++ t) := by
  induction hs with
  | nil => exact ht
  | plain hvisible hmark hpercent _ ih => exact ih.plain hvisible hmark hpercent
  | escape hhigh hlow _ ih => exact ih.escape hhigh hlow

theorem visible_of_mem_hexDigits {d : Char} (h : d ∈ hexDigits) : Visible d ∧ d ∉ marks := by
  have hall : (hexDigits.all fun d ↦ Visible d ∧ d ∉ marks) = true := by decide
  exact of_decide_eq_true (List.all_eq_true.mp hall d h)

/-- All characters of a component are visible, also those of escapes, and none is a mark. -/
theorem visible_of_mem (hs : Component s) : ∀ c ∈ s, Visible c ∧ c ∉ marks := by
  induction hs with
  | nil => exact fun c hc ↦ absurd hc List.not_mem_nil
  | plain hvisible hmark _ _ ih => exact List.forall_mem_cons.mpr ⟨⟨hvisible, hmark⟩, ih⟩
  | escape hhigh hlow _ ih =>
    refine List.forall_mem_cons.mpr ⟨by decide, List.forall_mem_cons.mpr ⟨?_,
      List.forall_mem_cons.mpr ⟨?_, ih⟩⟩⟩
    · exact visible_of_mem_hexDigits hhigh
    · exact visible_of_mem_hexDigits hlow

theorem notMem_of_mem_marks (hs : Component s) {mark : Char} (h : mark ∈ marks) : mark ∉ s :=
  fun hmem ↦ (hs.visible_of_mem mark hmem).2 h

/-- A character that needs no escape is a component of its own. -/
theorem of_escaped {c : Char} (h : escaped c = false) : Component [c] := by
  rw [escaped, Bool.or_eq_false_iff, Bool.or_eq_false_iff, decide_eq_false_iff_not,
    decide_eq_false_iff_not, List.contains_eq_mem, decide_eq_false_iff_not] at h
  obtain ⟨⟨hlow, hhigh⟩, hlisted⟩ := h
  have hne {d : Char} (hd : d ∈ " \"#%&+/<=>?".toList) : c ≠ d := by
    rintro rfl
    exact hlisted hd
  have hspace : c.toNat ≠ 0x20 := fun hcode ↦
    hne (d := ' ') (by decide) (Char.toNat_inj.mp hcode)
  refine nil.plain ⟨by omega, by omega⟩ (fun hmark ↦ ?_) (hne (by decide))
  have hmarks : marks ⊆ " \"#%&+/<=>?".toList := by decide
  exact hlisted (hmarks hmark)

theorem upper_mem_hexDigits : ∀ d : Fin 16, Hex.upper d ∈ hexDigits := by decide

theorem escapes (stretch : List UInt8) : Component (stretch.flatMap escapeByte) := by
  induction stretch with
  | nil => exact nil
  | cons byte stretch ih =>
    exact ih.escape (upper_mem_hexDigits _) (upper_mem_hexDigits _)

theorem encodeChars (text : List Char) : Component (encodeChars text) := by
  induction text with
  | nil => exact nil
  | cons c text ih =>
    rw [Percent.encodeChars, List.flatMap_cons]
    refine append ?_ ih
    rw [encodeChar]
    by_cases h : escaped c
    · rw [if_pos h]
      exact escapes _
    · rw [if_neg h]
      exact of_escaped (Bool.not_eq_true _ ▸ h)

theorem encode (text : String) : Component (encode text).toList := by
  rw [toList_encode]
  exact encodeChars text.toList

end Component

theorem Plain.visible {c : Char} (h : Plain c) : Visible c ∧ c ∉ marks := by
  rcases h with hescaped | rfl
  · exact (Component.of_escaped hescaped).visible_of_mem c (List.mem_singleton_self c)
  · decide

theorem mem_hexDigits_of_mem_escapeByte {byte : UInt8} {c : Char} (h : c ∈ escapeByte byte) :
    c = '%' ∨ c ∈ hexDigits := by
  rw [escapeByte, List.mem_cons, List.mem_cons, List.mem_singleton] at h
  rcases h with rfl | rfl | rfl
  · exact .inl rfl
  · exact .inr (Component.upper_mem_hexDigits _)
  · exact .inr (Component.upper_mem_hexDigits _)

/-- What needs no escape, and is in none, stands in a component only for itself. -/
theorem mem_encodeChars_iff {c : Char} (hescaped : escaped c = false) (hdigit : c ∉ hexDigits)
    {text : List Char} : c ∈ encodeChars text ↔ c ∈ text := by
  have hchar (d : Char) : c ∈ encodeChar d ↔ c = d := by
    rw [encodeChar]
    by_cases hd : escaped d
    · have hne : c ≠ d := by
        rintro rfl
        exact Bool.false_ne_true (hescaped.symm.trans hd)
      rw [if_pos hd, List.mem_flatMap]
      refine iff_of_false ?_ hne
      rintro ⟨byte, -, hbyte⟩
      rcases mem_hexDigits_of_mem_escapeByte hbyte with rfl | hmem
      · exact Bool.false_ne_true (hescaped.symm.trans (by decide))
      · exact hdigit hmem
    · rw [if_neg hd, List.mem_singleton]
  rw [encodeChars, List.mem_flatMap]
  simp only [hchar, exists_eq_right']

/-! ## Texts as components -/

theorem encode_append (text text' : String) :
    encode (text ++ text') = encode text ++ encode text' := by
  rw [← String.toList_inj, toList_encode, String.toList_append, String.toList_append, toList_encode,
    toList_encode, encodeChars_append]

theorem decode_encode (text : String) : decode (encode text) = text := by
  rw [decode, toList_encode, decodeChars_encodeChars, String.ofList_toList]

/-- Components joined by a mark come apart where they were joined. -/
theorem splitOn_intercalate_encode {separator : Char} (hseparator : separator ∈ marks)
    {texts : List String} (hne : texts ≠ []) :
    ((String.singleton separator).intercalate (texts.map encode)).toList.splitOn separator =
      (texts.map encode).map String.toList := by
  rw [String.toList_intercalate, String.toList_singleton]
  refine List.splitOn_intercalate separator (fun piece hpiece hmem ↦ ?_) ?_
  · rw [List.map_map, List.mem_map] at hpiece
    obtain ⟨text, -, rfl⟩ := hpiece
    exact ((Component.encode text).visible_of_mem separator hmem).2 hseparator
  · rwa [ne_eq, List.map_eq_nil_iff, List.map_eq_nil_iff]

/-- **Percent coding is a safe exact inverse.** A text is read back from its component exactly. The
component is visible ASCII without any of the marks, its percent signs begin escapes, and the
characters of reference tokens stand in it as they are. Texts are encoded piece by piece, no two of
them alike, and any number of components that a separator joins are found again between the
separators. -/
theorem encode_exact_and_safe :
    (∀ text, decode (encode text) = text) ∧
    (∀ text, Component (encode text).toList ∧
      ∀ c ∈ (encode text).toList, Visible c ∧ c ∉ " \"#&+/<=>?".toList) ∧
    (∀ bracket ∈ ["[", "]", "$"], ∀ before behind,
      encode (before ++ bracket ++ behind) = encode before ++ bracket ++ encode behind) ∧
    (∀ text text', encode (text ++ text') = encode text ++ encode text') ∧
    Function.Injective encode ∧
    ∀ separator ∈ ['/', '?', '&', '='], ∀ texts ≠ [],
      (((String.singleton separator).intercalate (texts.map encode)).toList.splitOn separator).map
        String.ofList = texts.map encode := by
  refine ⟨decode_encode, fun text ↦ ⟨.encode text, (Component.encode text).visible_of_mem⟩, ?_,
    encode_append, Function.LeftInverse.injective decode_encode, ?_⟩
  · intro bracket hbracket before behind
    have hplain : ∀ bracket ∈ ["[", "]", "$"], encode bracket = bracket := by decide
    rw [encode_append, encode_append, hplain bracket hbracket]
  · intro separator hseparator texts hne
    have hmarks : ['/', '?', '&', '='] ⊆ marks := by decide
    rw [splitOn_intercalate_encode (hmarks hseparator) hne, List.map_map]
    simp only [Function.comp_def, String.ofList_toList, List.map_id']

/-- Names with separators, spaces, percent signs and characters of several bytes are found again in
a path. -/
theorem encode_exact_and_safe_names :
    encode ("a/b" ++ "[" ++ "%2F é") = "a%2Fb[%252F%20%C3%A9" ∧
      (("/".intercalate (["a/b", "", "%2F é"].map encode)).toList.splitOn '/').map String.ofList =
        ["a%2Fb", "", "%252F%20%C3%A9"] := by
  obtain ⟨-, -, hbrackets, -, -, hjoined⟩ := encode_exact_and_safe
  refine ⟨(hbrackets "[" (by decide) _ _).trans (by decide), ?_⟩
  exact (hjoined '/' (by decide) _ (List.cons_ne_nil _ _)).trans (by decide)

end ObjectConsole.Text.Percent
