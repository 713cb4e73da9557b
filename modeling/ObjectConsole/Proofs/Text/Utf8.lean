import ObjectConsole.Text.Utf8
import Mathlib.Tactic.SplitIfs

/-!
# Text read back from its bytes

The byte reader gives back every text that was written as bytes, and it needs no look-ahead for it:
whatever stands behind the bytes of a text is read as if it stood alone. The reader is followed byte
by byte, so the cases are the four lengths of a character, and the one fact about each is that its
second byte lies within the bounds that the leading byte sets.
-/

namespace ObjectConsole.Text.Utf8

/-! ## One byte behind another -/

theorem toNat_ofNat_of_lt {n : Nat} (h : n < 256) : (UInt8.ofNat n).toNat = n := by
  rw [UInt8.toNat_ofNat', Nat.mod_eq_of_lt h]

theorem decodeFrom_none_cons {byte : UInt8} {rest : List UInt8} :
    decodeFrom none (byte :: rest) = (start byte).1 ++ decodeFrom (start byte).2 rest := rfl

theorem decodeFrom_tail {bits missing low high t : Nat} {rest : List UInt8}
    (hlow : low ≤ t % 0x40 + 0x80) (hhigh : t % 0x40 + 0x80 ≤ high) :
    decodeFrom (some ⟨bits, missing + 2, low, high⟩) (UInt8.ofNat (t % 0x40 + 0x80) :: rest) =
      decodeFrom (some ⟨bits * 64 + t % 0x40, missing + 1, 0x80, 0xBF⟩) rest := by
  rw [decodeFrom, step, toNat_ofNat_of_lt (by omega), if_pos ⟨hlow, hhigh⟩]
  simp

theorem decodeFrom_lastTail {bits low high t : Nat} {rest : List UInt8}
    (hlow : low ≤ t % 0x40 + 0x80) (hhigh : t % 0x40 + 0x80 ≤ high) :
    decodeFrom (some ⟨bits, 1, low, high⟩) (UInt8.ofNat (t % 0x40 + 0x80) :: rest) =
      Char.ofNat (bits * 64 + t % 0x40) :: decodeFrom none rest := by
  rw [decodeFrom, step, toNat_ofNat_of_lt (by omega), if_pos ⟨hlow, hhigh⟩]
  simp

/-! ## Leading bytes -/

theorem start_of_ascii {n : Nat} (h : n < 0x80) :
    start (UInt8.ofNat n) = ([Char.ofNat n], none) := by
  rw [start, toNat_ofNat_of_lt (by omega), if_pos h]

theorem start_of_two {n : Nat} (hlow : 0x7F < n) (hhigh : n ≤ 0x7FF) :
    start (UInt8.ofNat (n / 64 % 0x20 + 0xC0)) = ([], some ⟨n / 64, 1, 0x80, 0xBF⟩) := by
  have hbits : n / 64 % 0x20 + 0xC0 - 0xC0 = n / 64 := by omega
  rw [start, toNat_ofNat_of_lt (by omega), if_neg (by omega), if_neg (by omega),
    if_pos (by omega), hbits]

/-- The bounds of the second byte hold for every character of three bytes: behind `E0` because the
character needs three bytes, behind `ED` because it is no surrogate. -/
theorem start_of_three {n : Nat} (hlow : 0x7FF < n) (hhigh : n ≤ 0xFFFF)
    (hscalar : n < 0xD800 ∨ 0xDFFF < n) :
    ∃ low high, start (UInt8.ofNat (n / 4096 % 0x10 + 0xE0)) = ([], some ⟨n / 4096, 2, low, high⟩) ∧
      low ≤ n / 64 % 0x40 + 0x80 ∧ n / 64 % 0x40 + 0x80 ≤ high := by
  have hbits : n / 4096 % 0x10 + 0xE0 - 0xE0 = n / 4096 := by omega
  rw [start, toNat_ofNat_of_lt (by omega), if_neg (by omega), if_neg (by omega),
    if_neg (by omega)]
  -- two leading bytes narrow the bounds of the byte behind them
  by_cases hE0 : n / 4096 = 0
  · exact ⟨0xA0, 0xBF, by rw [if_pos (by omega), hE0], by omega, by omega⟩
  by_cases hED : n / 4096 = 0xD
  · exact ⟨0x80, 0x9F, by rw [if_neg (by omega), if_pos (by omega), hED], by omega, by omega⟩
  · refine ⟨0x80, 0xBF, ?_, by omega, by omega⟩
    rw [if_neg (by omega), if_neg (by omega), if_pos (by omega), hbits]

/-- The bounds of the second byte hold for every character of four bytes: behind `F0` because the
character needs four bytes, behind `F4` because there is none above the last code point. -/
theorem start_of_four {n : Nat} (hlow : 0xFFFF < n) (hhigh : n < 0x110000) :
    ∃ low high, start (UInt8.ofNat (n / 262144 % 0x08 + 0xF0)) =
        ([], some ⟨n / 262144, 3, low, high⟩) ∧
      low ≤ n / 4096 % 0x40 + 0x80 ∧ n / 4096 % 0x40 + 0x80 ≤ high := by
  have hbits : n / 262144 % 0x08 + 0xF0 - 0xF0 = n / 262144 := by omega
  rw [start, toNat_ofNat_of_lt (by omega), if_neg (by omega), if_neg (by omega),
    if_neg (by omega), if_neg (by omega), if_neg (by omega), if_neg (by omega)]
  -- again the first and the last leading byte narrow the bounds
  by_cases hF0 : n / 262144 = 0
  · exact ⟨0x90, 0xBF, by rw [if_pos (by omega), hF0], by omega, by omega⟩
  by_cases hF4 : n / 262144 = 4
  · refine ⟨0x80, 0x8F, ?_, by omega, by omega⟩
    rw [if_neg (by omega), if_neg (by omega), if_pos (by omega), hF4]
  · refine ⟨0x80, 0xBF, ?_, by omega, by omega⟩
    rw [if_neg (by omega), if_pos (by omega), hbits]

/-! ## Whole characters -/

theorem decodeFrom_utf8EncodeChar (c : Char) (rest : List UInt8) :
    decodeFrom none (String.utf8EncodeChar c ++ rest) = c :: decodeFrom none rest := by
  have hchar : Char.ofNat c.val.toNat = c := Char.ofNat_toNat c
  have hvalid : c.val.toNat < 0xD800 ∨ 0xDFFF < c.val.toNat ∧ c.val.toNat < 0x110000 := c.valid
  rw [String.utf8EncodeChar]
  generalize c.val.toNat = n at hchar hvalid
  -- one case for each number of bytes, with as many tails as the leading byte announces
  split_ifs with h1 h2 h3
  · rw [List.singleton_append, decodeFrom_none_cons, start_of_ascii (by omega), hchar]
    rfl
  · have hbits : n / 64 * 64 + n % 0x40 = n := by omega
    rw [List.cons_append, List.singleton_append, decodeFrom_none_cons,
      start_of_two (by omega) h2, List.nil_append, decodeFrom_lastTail (by omega) (by omega),
      hbits, hchar]
  · obtain ⟨low, high, hstart, hlow, hhigh⟩ := start_of_three (by omega) h3 (by omega)
    have hbits : (n / 4096 * 64 + n / 64 % 0x40) * 64 + n % 0x40 = n := by omega
    rw [List.cons_append, List.cons_append, List.singleton_append, decodeFrom_none_cons, hstart,
      List.nil_append, decodeFrom_tail hlow hhigh, decodeFrom_lastTail (by omega) (by omega),
      hbits, hchar]
  · obtain ⟨low, high, hstart, hlow, hhigh⟩ := start_of_four (n := n) (by omega) (by omega)
    have hbits :
        ((n / 262144 * 64 + n / 4096 % 0x40) * 64 + n / 64 % 0x40) * 64 + n % 0x40 = n := by
      omega
    rw [List.cons_append, List.cons_append, List.cons_append, List.singleton_append,
      decodeFrom_none_cons, hstart, List.nil_append, decodeFrom_tail hlow hhigh,
      decodeFrom_tail (by omega) (by omega), decodeFrom_lastTail (by omega) (by omega),
      hbits, hchar]

/-- A text in front of any bytes is read back as it is, and the bytes behind it are read as if they
stood alone. -/
theorem decode_encode_append (text : List Char) (rest : List UInt8) :
    decode (encode text ++ rest) = text ++ decode rest := by
  rw [decode, decode]
  induction text with
  | nil => rfl
  | cons c text ih =>
    rw [encode, List.flatMap_cons, List.append_assoc, decodeFrom_utf8EncodeChar, ← encode, ih,
      List.cons_append]

end ObjectConsole.Text.Utf8
