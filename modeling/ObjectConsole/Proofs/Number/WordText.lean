import ObjectConsole.Number.Word
import ObjectConsole.Proofs.Text.Decimal
import Mathlib.Tactic.SplitIfs

/-!
# Words read exactly

A word is read digit by digit, and the range is checked at each of them, twice: when the number so
far is multiplied, and when the digit is added to it or, behind a minus sign, subtracted. What comes
out does not depend on any of this. A text that spells a whole number is read as that number if the
word can hold it, and is too large or too small otherwise (`read_of_spells`); any other text is
refused.

The checks are exact because reading goes away from zero: whatever is reached on the way stands
between zero and the number that is spelled, so it is in range if that number is
(`holds_signed_of_le`). The side of zero is the same all along, and the range may therefore be wider
on one side than on the other.
-/

namespace ObjectConsole.Number.Word

open ObjectConsole.Text

/-! ## The grammar of whole numbers -/

/-- Digits, at least one. -/
def Digits (text : List Char) : Prop :=
  text ≠ [] ∧ ∀ c ∈ text, c.isDigit = true

/-- How whole numbers are spelled: in digits, as many as one likes, behind a sign or none. -/
inductive Spells : List Char → Int → Prop
  | unsigned {digits : List Char} (h : Digits digits) : Spells digits (Nat.ofDigitChars 10 digits 0)
  | plus {digits : List Char} (h : Digits digits) :
    Spells ('+' :: digits) (Nat.ofDigitChars 10 digits 0)
  | minus {digits : List Char} (h : Digits digits) :
    Spells ('-' :: digits) (-(Nat.ofDigitChars 10 digits 0 : Nat))

theorem digits_ofNat (n : Nat) : Digits (Decimal.ofNat n) :=
  ⟨Decimal.ofNat_ne_nil n, fun _ ↦ Decimal.isDigit_of_mem_ofNat⟩

/-- A word spells itself. -/
theorem spells_text {w : Width} (word : Word w) : Spells word.text word.val := by
  have hread : Nat.ofDigitChars 10 (Decimal.ofNat word.val.natAbs) 0 = word.val.natAbs :=
    Nat.ofDigitChars_ten_toDigits
  rw [text, Decimal.ofInt]
  split_ifs with h
  · have hval : word.val = -(word.val.natAbs : Int) := by omega
    have hspells := Spells.minus (digits_ofNat word.val.natAbs)
    rwa [hread, ← hval] at hspells
  · have hval : word.val = (word.val.natAbs : Int) := by omega
    have hspells := Spells.unsigned (digits_ofNat word.val.natAbs)
    rwa [hread, ← hval] at hspells

/-! ## Reading digits -/

/-- A number on one side of zero. -/
def signed (negative : Bool) (n : Nat) : Int :=
  if negative then -n else n

/-- The fault of a number beyond the range on one side of zero. -/
def overflow (negative : Bool) : Fault :=
  if negative then .tooSmall else .tooLarge

@[simp] theorem signed_true (n : Nat) : signed true n = -n := rfl

@[simp] theorem signed_false (n : Nat) : signed false n = n := rfl

variable {w : Width} {negative : Bool} {digits : List Char}

/-- What stands between zero and a number in range is in range. -/
theorem holds_signed_of_le {m n : Nat} (h : w.Holds (signed negative n)) (hle : m ≤ n) :
    w.Holds (signed negative m) := by
  have hhalf : 0 < w.half := by cases w <;> decide
  cases negative <;> simp only [signed_true, signed_false, Width.Holds] at h ⊢ <;> omega

theorem signed_shift (m : Nat) : signed negative m * 10 = signed negative (10 * m) := by
  cases negative <;> simp only [signed_true, signed_false] <;> omega

theorem signed_next (m d : Nat) :
    (if negative then signed negative m - d else signed negative m + d) =
      signed negative (m + d) := by
  cases negative
  · simp
  · simp
    omega

theorem le_ofDigitChars (digits : List Char) (m : Nat) : m ≤ Nat.ofDigitChars 10 digits m := by
  induction digits generalizing m with
  | nil => exact Nat.le_of_eq Nat.ofDigitChars_nil.symm
  | cons c rest ih =>
    rw [Nat.ofDigitChars_cons]
    have hrest := ih (10 * m + (c.toNat - '0'.toNat))
    omega

/-- Digits are read as the number that they spell behind the number so far, if it is in range. -/
theorem readDigits_of_digits (hdigits : ∀ c ∈ digits, c.isDigit = true) {m : Nat}
    {sofar : Word w} (hsofar : sofar.val = signed negative m) :
    readDigits negative sofar digits =
      if h : w.Holds (signed negative (Nat.ofDigitChars 10 digits m)) then .ok ⟨_, h⟩
      else .error (overflow negative) := by
  induction digits generalizing m sofar with
  | nil =>
    have hholds : w.Holds (signed negative (Nat.ofDigitChars 10 [] m)) := by
      rw [Nat.ofDigitChars_nil, ← hsofar]
      exact sofar.holds
    rw [readDigits, dif_pos hholds]
    simp only [Nat.ofDigitChars_nil, ← hsofar]
  | cons c rest ih =>
    rw [List.forall_mem_cons] at hdigits
    have hle := le_ofDigitChars rest (10 * m + (c.toNat - 48))
    rw [readDigits, Decimal.value?_of_isDigit hdigits.1]
    simp only [hsofar, signed_shift, signed_next, Nat.ofDigitChars_cons, Char.reduceToNat]
    by_cases hnext : w.Holds (signed negative (10 * m + (c.toNat - 48)))
    · have hboth : w.Holds (signed negative (10 * m)) ∧
          w.Holds (signed negative (10 * m + (c.toNat - 48))) :=
        ⟨holds_signed_of_le hnext (Nat.le_add_right _ _), hnext⟩
      rw [dif_pos hboth]
      exact ih hdigits.2 rfl
    · have hbeyond : ¬w.Holds (signed negative
          (Nat.ofDigitChars 10 rest (10 * m + (c.toNat - 48)))) :=
        fun h ↦ hnext (holds_signed_of_le h hle)
      rw [dif_neg fun hboth ↦ hnext (And.right hboth), dif_neg hbeyond]
      rfl

theorem isDigit_of_readDigits {sofar n : Word w} (h : readDigits negative sofar digits = .ok n) :
    ∀ c ∈ digits, c.isDigit = true := by
  induction digits generalizing sofar with
  | nil => exact fun c hc ↦ absurd hc List.not_mem_nil
  | cons c rest ih =>
    rw [readDigits] at h
    cases hvalue : Decimal.value? c with
    | none => rw [hvalue] at h; cases h
    | some d =>
      rw [hvalue] at h
      dsimp only at h
      by_cases hrange : w.Holds (sofar.val * 10) ∧
          w.Holds (if negative then sofar.val * 10 - d else sofar.val * 10 + d)
      · rw [dif_pos hrange] at h
        exact List.forall_mem_cons.mpr ⟨Decimal.isDigit_of_value? hvalue, ih h⟩
      · rw [dif_neg hrange] at h
        cases h

/-! ## Reading words -/

theorem read_of_digits (hdigits : Digits digits) :
    read w digits = readDigits false default digits := by
  obtain ⟨c, rest, rfl⟩ := List.exists_cons_of_ne_nil hdigits.1
  have hc : c.isDigit = true := hdigits.2 c List.mem_cons_self
  rw [read.eq_def]
  split
  · next heq => cases heq
  -- neither sign is a digit
  iterate 4
    · next heq =>
      cases heq
      cases hc
  · rfl

theorem read_plus (hdigits : Digits digits) :
    read w ('+' :: digits) = readDigits false default digits := by
  obtain ⟨c, rest, rfl⟩ := List.exists_cons_of_ne_nil hdigits.1
  rfl

theorem read_minus (hdigits : Digits digits) :
    read w ('-' :: digits) = readDigits true default digits := by
  obtain ⟨c, rest, rfl⟩ := List.exists_cons_of_ne_nil hdigits.1
  rfl

theorem exists_read_of_spells (w : Width) {text : List Char} {n : Int} (h : Spells text n) :
    ∃ negative m, n = signed negative m ∧ read w text =
      if h : w.Holds (signed negative m) then .ok ⟨_, h⟩ else .error (overflow negative) := by
  cases h with
  | unsigned hdigits =>
    exact ⟨false, _, rfl, (read_of_digits hdigits).trans (readDigits_of_digits hdigits.2 rfl)⟩
  | plus hdigits =>
    exact ⟨false, _, rfl, (read_plus hdigits).trans (readDigits_of_digits hdigits.2 rfl)⟩
  | minus hdigits =>
    exact ⟨true, _, rfl, (read_minus hdigits).trans (readDigits_of_digits hdigits.2 rfl)⟩

/-- A number that is not in range is not zero, so its sign tells where it is beyond the range. -/
theorem overflow_eq {m : Nat} (h : ¬w.Holds (signed negative m)) :
    overflow negative = if signed negative m < 0 then .tooSmall else .tooLarge := by
  cases negative with
  | false => rw [signed_false, if_neg (by omega)]; rfl
  | true =>
    have hne : m ≠ 0 := by
      rintro rfl
      exact h w.holds_zero
    rw [signed_true, if_pos (by omega)]
    rfl

/-- **A number is read exactly.** What is spelled is read if it is in range, and the fault of a
number beyond the range tells on which side. -/
theorem read_of_spells {text : List Char} {n : Int} (h : Spells text n) :
    read w text =
      if h : w.Holds n then .ok ⟨n, h⟩ else .error (if n < 0 then .tooSmall else .tooLarge) := by
  obtain ⟨negative, m, rfl, hread⟩ := exists_read_of_spells w h
  rw [hread]
  by_cases hholds : w.Holds (signed negative m)
  · rw [dif_pos hholds, dif_pos hholds]
  · rw [dif_neg hholds, dif_neg hholds, overflow_eq hholds]

/-- What is read was spelled. -/
theorem exists_spells_of_read {text : List Char} {n : Word w} (h : read w text = .ok n) :
    ∃ m, Spells text m := by
  rw [read.eq_def] at h
  split at h
  · cases h
  · cases h
  · cases h
  · next digits hne =>
    have hdigits : digits ≠ [] := by
      rintro rfl
      exact hne rfl
    exact ⟨_, .plus ⟨hdigits, isDigit_of_readDigits h⟩⟩
  · next digits hne =>
    have hdigits : digits ≠ [] := by
      rintro rfl
      exact hne rfl
    exact ⟨_, .minus ⟨hdigits, isDigit_of_readDigits h⟩⟩
  · next hne _ _ _ _ => exact ⟨_, .unsigned ⟨hne, isDigit_of_readDigits h⟩⟩

theorem read_eq_ok_iff {text : List Char} {n : Word w} :
    read w text = .ok n ↔ Spells text n.val := by
  constructor
  · intro h
    obtain ⟨m, hspells⟩ := exists_spells_of_read h
    rw [read_of_spells hspells] at h
    split_ifs at h
    cases h
    exact hspells
  · intro h
    rw [read_of_spells h, dif_pos n.holds]

end ObjectConsole.Number.Word
