import ObjectConsole.Number.FloatText
import ObjectConsole.Number.Word
import ObjectConsole.Proofs.Text.Html

/-!
# Numbers on a page

A number goes onto a page as it is. Its text is made of digits, a sign, a point and the letters of
`NaN` and `inf`, and none of them is escaped.
-/

namespace ObjectConsole

open Text

namespace Number

theorem escaped_of_mem_ofNat {n : Nat} {c : Char} (h : c ∈ Decimal.ofNat n) :
    Html.escaped c = false :=
  Html.escaped_of_isDigit (Decimal.isDigit_of_mem_ofNat h)

theorem escaped_of_mem_zeros {n : Nat} {c : Char} (h : c ∈ List.replicate n '0') :
    Html.escaped c = false := by
  rw [(List.mem_replicate.mp h).2]
  decide

theorem Word.escaped_of_mem_text {width : Width} {word : Word width} {c : Char}
    (h : c ∈ word.text) : Html.escaped c = false := by
  rw [text, Decimal.ofInt] at h
  split at h
  · rcases List.mem_cons.mp h with rfl | hdigit
    · decide
    · exact escaped_of_mem_ofNat hdigit
  · exact escaped_of_mem_ofNat h

namespace Floating

theorem escaped_of_mem_positional {d : Shortest.Decimal} {c : Char}
    (h : c ∈ (positional d).1 ∨ c ∈ (positional d).2) : Html.escaped c = false := by
  rw [positional] at h
  split_ifs at h with hwhole
  · simp only [List.mem_append, List.not_mem_nil, or_false] at h
    exact h.elim escaped_of_mem_ofNat escaped_of_mem_zeros
  · dsimp only at h
    split_ifs at h
    · rw [List.splitAt_eq] at h
      exact h.elim (fun h ↦ escaped_of_mem_ofNat (List.mem_of_mem_take h))
        fun h ↦ escaped_of_mem_ofNat (List.mem_of_mem_drop h)
    · simp only [List.mem_singleton, List.mem_append] at h
      rcases h with rfl | hzero | hdigit
      · decide
      · exact escaped_of_mem_zeros hzero
      · exact escaped_of_mem_ofNat hdigit

theorem escaped_of_mem_sign {negative : Bool} {c : Char} (h : c ∈ sign negative) :
    Html.escaped c = false := by
  cases negative with
  | false => cases h
  | true => rw [List.mem_singleton.mp h]; decide

theorem escaped_of_mem_text {format : Format} {x : Floating} {c : Char} (h : c ∈ x.text format) :
    Html.escaped c = false := by
  cases x with
  | nan =>
    rw [text] at h
    exact Html.escaped_of_all (by decide) c h
  | infinite negative =>
    rw [text, List.mem_append] at h
    exact h.elim escaped_of_mem_sign (Html.escaped_of_all (by decide) c)
  | finite negative significand exponent =>
    simp only [text, List.mem_append] at h
    rcases h with (hsign | hwhole) | hfraction
    · exact escaped_of_mem_sign hsign
    · exact escaped_of_mem_positional (.inl hwhole)
    · split at hfraction
      · cases hfraction
      · rcases List.mem_cons.mp hfraction with rfl | hfraction
        · decide
        · exact escaped_of_mem_positional (.inr hfraction)

end Floating

end Number

end ObjectConsole
