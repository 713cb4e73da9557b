import ObjectConsole.Text.Digits
import Mathlib.Data.List.Basic

/-!
# Decimal digits read back

Digits are read as far as they go. A number that was written in digits is therefore read back whole
in front of anything that does not begin with a digit, and nothing of what stands behind is lost.
-/

namespace ObjectConsole.Text.Decimal

/-! ## Runs of digits -/

theorem value?_of_isDigit {c : Char} (h : c.isDigit = true) : value? c = some (c.toNat - 48) := by
  rw [Char.isDigit, Bool.and_eq_true, decide_eq_true_iff, decide_eq_true_iff] at h
  exact if_pos h

theorem isDigit_of_value? {c : Char} {d : Nat} (h : value? c = some d) : c.isDigit = true := by
  obtain ⟨hlt, hcode⟩ := value?_eq_some_iff.mp h
  have hlow : '0'.toNat ≤ c.toNat := by rw [hcode]; exact Nat.le_add_right _ _
  have hhigh : c.toNat ≤ '9'.toNat := by
    rw [hcode]
    exact Nat.add_le_add_left (Nat.le_of_lt_succ hlt) 48
  rw [Char.isDigit, Bool.and_eq_true, decide_eq_true_iff, decide_eq_true_iff]
  exact ⟨hlow, hhigh⟩

theorem leading_of_digits {digits rest : List Char} (hdigits : ∀ c ∈ digits, c.isDigit = true)
    (hrest : ∀ c ∈ rest.head?, value? c = none) :
    leading (digits ++ rest) = (digits.map fun c ↦ c.toNat - 48, rest) := by
  induction digits with
  | nil =>
    cases rest with
    | nil => rfl
    | cons c rest => rw [List.nil_append, leading, hrest c rfl]; rfl
  | cons c digits ih =>
    rw [List.forall_mem_cons] at hdigits
    rw [List.cons_append, leading, value?_of_isDigit hdigits.1, ih hdigits.2, List.map_cons]

theorem length_snd_leading_le (s : List Char) : (leading s).2.length ≤ s.length := by
  induction s with
  | nil => exact Nat.le_refl _
  | cons c rest ih =>
    rw [leading]
    cases value? c with
    | some d => exact Nat.le_succ_of_le ih
    | none => exact Nat.le_refl _

theorem number_map_digits (digits : List Char) :
    number (digits.map fun c ↦ c.toNat - 48) = Nat.ofDigitChars 10 digits 0 := by
  rw [number, Nat.ofDigitChars_eq_foldl, List.foldl_map]
  rfl

/-! ## Written numbers -/

theorem isDigit_of_mem_ofNat {n : Nat} {c : Char} (h : c ∈ ofNat n) : c.isDigit = true :=
  Nat.isDigit_of_mem_toDigits (by decide) (by decide) h

theorem ofNat_ne_nil (n : Nat) : ofNat n ≠ [] := Nat.toDigits_ne_nil

theorem ofNat_injective {n n' : Nat} (h : ofNat n = ofNat n') : n = n' := by
  have hnumbers := congrArg (Nat.ofDigitChars 10 · 0) h
  simpa only [ofNat, Nat.ofDigitChars_ten_toDigits] using hnumbers

/-- A written number is read back whole. -/
theorem leading_ofNat_append (n : Nat) {rest : List Char}
    (hrest : ∀ c ∈ rest.head?, value? c = none) :
    ∃ digits, leading (ofNat n ++ rest) = (digits, rest) ∧ digits ≠ [] ∧ number digits = n := by
  have hread := leading_of_digits (fun c (h : c ∈ ofNat n) ↦ isDigit_of_mem_ofNat h) hrest
  refine ⟨_, hread, ?_, ?_⟩
  · rw [ne_eq, List.map_eq_nil_iff]
    exact ofNat_ne_nil n
  · rw [number_map_digits, ofNat, Nat.ofDigitChars_ten_toDigits]

end ObjectConsole.Text.Decimal
