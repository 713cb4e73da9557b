import ObjectConsole.Text.Digits

/-!
# Signed words

Integers come in four widths. A word carries its range in its type, so whatever reads or computes
one has to say what happens outside the range. Reading goes digit by digit and gives up at the
first digit that is none or that leaves the range: which fault a text has is therefore decided by
its earliest bad position.
-/

namespace ObjectConsole.Number

open ObjectConsole.Text

/-- The widths of signed words. -/
inductive Width where
  | w8 | w16 | w32 | w64
  deriving DecidableEq, Repr

namespace Width

/-- The number of values on either side of zero, which counts to the nonnegative side. -/
def half : Width → Nat
  | w8 => 128
  | w16 => 32768
  | w32 => 2147483648
  | w64 => 9223372036854775808

/-- The range of a word. -/
def Holds (w : Width) (n : Int) : Prop :=
  -(w.half : Int) ≤ n ∧ n < w.half

instance (w : Width) (n : Int) : Decidable (w.Holds n) :=
  inferInstanceAs (Decidable (_ ∧ _))

theorem holds_zero (w : Width) : w.Holds 0 := by
  cases w <;> decide

end Width

/-- A whole number in the range of a width. -/
structure Word (w : Width) where
  val : Int
  holds : w.Holds val
  deriving DecidableEq, Repr

namespace Word

/-- The word of a whole number, if it is in range. -/
def ofInt? (w : Width) (n : Int) : Option (Word w) :=
  if h : w.Holds n then some ⟨n, h⟩ else none

theorem ofInt?_eq_some_iff {w : Width} {n : Int} {word : Word w} :
    ofInt? w n = some word ↔ word.val = n := by
  unfold ofInt?
  split
  · next h =>
    constructor
    · intro e
      cases e
      rfl
    · rintro rfl
      rfl
  · next h => simp only [reduceCtorEq, false_iff]; exact fun e ↦ h (e ▸ word.holds)

/-- The word that a whole number is congruent to. -/
def wrap (w : Width) (n : Int) : Word w where
  val := n.bmod (2 * w.half)
  holds := by
    have hpos : 0 < 2 * w.half := by cases w <;> decide
    have hlow := Int.le_bmod (x := n) hpos
    have hhigh := Int.bmod_lt (x := n) hpos
    simp only [Width.Holds]
    omega

instance (w : Width) : Inhabited (Word w) :=
  ⟨⟨0, w.holds_zero⟩⟩

/-- A word in digits. -/
def text {w : Width} (word : Word w) : List Char :=
  Decimal.ofInt word.val

/-- Why a text is no word. -/
inductive Fault where
  | empty | invalidDigit | tooLarge | tooSmall
  deriving DecidableEq, Repr

/-- The wording of a fault. -/
def Fault.message : Fault → String
  | empty => "cannot parse integer from empty string"
  | invalidDigit => "invalid digit found in string"
  | tooLarge => "number too large to fit in target type"
  | tooSmall => "number too small to fit in target type"

/-- Reads digits behind the number read so far, away from zero. The number is multiplied first and
takes the digit then, and both results have to be in range. -/
def readDigits {w : Width} (negative : Bool) : Word w → List Char → Except Fault (Word w)
  | sofar, [] => .ok sofar
  | sofar, c :: rest =>
    match Decimal.value? c with
    | none => .error .invalidDigit
    | some d =>
      let shifted := sofar.val * 10
      let next := if negative then shifted - d else shifted + d
      if h : w.Holds shifted ∧ w.Holds next then readDigits negative ⟨next, h.2⟩ rest
      else .error (if negative then .tooSmall else .tooLarge)

/-- Reads a word: one optional sign, then at least one digit and nothing else. -/
def read (w : Width) : List Char → Except Fault (Word w)
  | [] => .error .empty
  | ['+'] | ['-'] => .error .invalidDigit
  | '+' :: digits => readDigits false default digits
  | '-' :: digits => readDigits true default digits
  | digits => readDigits false default digits

end Word

end ObjectConsole.Number
