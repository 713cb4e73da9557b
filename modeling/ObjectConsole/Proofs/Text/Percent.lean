import ObjectConsole.Text.Percent
import ObjectConsole.Proofs.Text.Utf8

/-!
# Components read back

An address is cut at its separators and its components are decoded, sometimes the other way round:
a path is decoded as a whole and cut afterwards, a query is cut first. Both work because of two
facts. No separator occurs in a component (`notMem_encodeChars`), and a component in front of
anything is decoded as it was written, with what stands behind decoded as if it stood alone
(`decodeChars_encodeChars_append`).
-/

namespace ObjectConsole.Text.Percent

/-! ## Reading escapes -/

theorem bytes_cons_of_ne {c : Char} (h : c ≠ '%') (rest : List Char) :
    bytes (c :: rest) = String.utf8EncodeChar c ++ bytes rest := by
  rw [bytes.eq_def]
  split
  · next heq => cases heq
  · next heq => exact absurd (List.cons.inj heq).1 h
  · next heq =>
    obtain ⟨rfl, rfl⟩ := List.cons.inj heq
    rfl

theorem byteOf?_upper (byte : UInt8) (hhigh : byte.toNat / 16 < 16) (hlow : byte.toNat % 16 < 16) :
    byteOf? (Hex.upper ⟨byte.toNat / 16, hhigh⟩) (Hex.upper ⟨byte.toNat % 16, hlow⟩) =
      some byte := by
  rw [byteOf?, Hex.value?_upper, Hex.value?_upper]
  have hsplit : byte.toNat / 16 * 16 + byte.toNat % 16 = byte.toNat := by omega
  simp only [hsplit, UInt8.ofNat_toNat]

theorem bytes_escapeByte_append (byte : UInt8) (rest : List Char) :
    bytes (escapeByte byte ++ rest) = byte :: bytes rest := by
  rw [escapeByte, List.cons_append, List.cons_append, List.singleton_append, bytes,
    byteOf?_upper]

theorem bytes_escapes_append (stretch : List UInt8) (rest : List Char) :
    bytes (stretch.flatMap escapeByte ++ rest) = stretch ++ bytes rest := by
  induction stretch with
  | nil => rfl
  | cons byte stretch ih =>
    rw [List.flatMap_cons, List.append_assoc, bytes_escapeByte_append, ih, List.cons_append]

theorem bytes_encodeChar_append (c : Char) (rest : List Char) :
    bytes (encodeChar c ++ rest) = String.utf8EncodeChar c ++ bytes rest := by
  rw [encodeChar]
  by_cases h : escaped c
  · rw [if_pos h, bytes_escapes_append]
  · -- the percent sign is escaped itself, so what stands unescaped begins no escape
    have hne : c ≠ '%' := by
      rintro rfl
      exact h (by decide)
    rw [if_neg h, List.singleton_append, bytes_cons_of_ne hne]

theorem bytes_encodeChars_append (text rest : List Char) :
    bytes (encodeChars text ++ rest) = Utf8.encode text ++ bytes rest := by
  induction text with
  | nil => rfl
  | cons c text ih =>
    rw [encodeChars, List.flatMap_cons, List.append_assoc, bytes_encodeChar_append,
      ← encodeChars, ih, Utf8.encode, Utf8.encode, List.flatMap_cons, List.append_assoc]

/-! ## Components -/

theorem decodeChars_encodeChars_append (text rest : List Char) :
    decodeChars (encodeChars text ++ rest) = text ++ decodeChars rest := by
  rw [decodeChars, bytes_encodeChars_append, Utf8.decode_encode_append, decodeChars]

theorem decodeChars_encodeChars (text : List Char) :
    decodeChars (encodeChars text) = text := by
  have h := decodeChars_encodeChars_append text []
  rwa [List.append_nil, show decodeChars [] = [] from rfl, List.append_nil] at h

theorem encodeChars_injective : Function.Injective encodeChars := by
  intro text text' h
  rw [← decodeChars_encodeChars text, h, decodeChars_encodeChars]

theorem decodeChars_cons_of_ne {c : Char} (h : c ≠ '%') (rest : List Char) :
    decodeChars (c :: rest) = c :: decodeChars rest := by
  rw [decodeChars, bytes_cons_of_ne h, Utf8.decode, Utf8.decodeFrom_utf8EncodeChar]
  rfl

/-- A text without escapes stands for itself. -/
theorem decodeChars_of_notMem {text : List Char} (h : '%' ∉ text) : decodeChars text = text := by
  induction text with
  | nil => rfl
  | cons c text ih =>
    rw [List.mem_cons, not_or] at h
    rw [decodeChars_cons_of_ne (Ne.symm h.1), ih h.2]

theorem decode_slash_of_notMem {text : String} (h : '%' ∉ text.toList) :
    decode ("/" ++ text) = "/" ++ text := by
  rw [decode, decodeChars_of_notMem (by simpa using h), String.ofList_toList]

theorem decode_slash_encode (text : String) : decode ("/" ++ encode text) = "/" ++ text := by
  rw [← String.toList_inj, toList_decode, String.toList_append, toList_encode,
    String.toList_append, show "/".toList = ['/'] from rfl, List.singleton_append,
    decodeChars_cons_of_ne (by decide), decodeChars_encodeChars, List.singleton_append]

/-- The characters that a component is written with: those that need no escape, and the percent
sign of the escapes. -/
def Plain (c : Char) : Prop :=
  escaped c = false ∨ c = '%'

theorem escaped_upper : ∀ d : Fin 16, escaped (Hex.upper d) = false := by decide

theorem plain_of_mem_escapeByte {byte : UInt8} {c : Char} (h : c ∈ escapeByte byte) : Plain c := by
  rw [escapeByte] at h
  simp only [List.mem_cons, List.not_mem_nil, or_false] at h
  rcases h with rfl | rfl | rfl
  · exact .inr rfl
  · exact .inl (escaped_upper _)
  · exact .inl (escaped_upper _)

theorem plain_of_mem_encodeChars {text : List Char} {c : Char} (h : c ∈ encodeChars text) :
    Plain c := by
  rw [encodeChars, List.mem_flatMap] at h
  obtain ⟨d, -, hc⟩ := h
  rw [encodeChar] at hc
  by_cases hd : escaped d
  · rw [if_pos hd, List.mem_flatMap] at hc
    obtain ⟨byte, -, hbyte⟩ := hc
    exact plain_of_mem_escapeByte hbyte
  · rw [if_neg hd, List.mem_singleton] at hc
    exact .inl (by rw [hc]; simpa using hd)

/-- A character that is escaped and not the percent sign never occurs in a component. -/
theorem notMem_encodeChars {text : List Char} {c : Char} (hescaped : escaped c = true)
    (hne : c ≠ '%') : c ∉ encodeChars text := by
  intro h
  rcases plain_of_mem_encodeChars h with hplain | rfl
  · rw [hescaped] at hplain
    cases hplain
  · exact hne rfl

theorem encodeChars_eq_nil_iff {text : List Char} : encodeChars text = [] ↔ text = [] := by
  constructor
  · intro h
    rw [← decodeChars_encodeChars text, h]
    rfl
  · rintro rfl
    rfl

end ObjectConsole.Text.Percent
