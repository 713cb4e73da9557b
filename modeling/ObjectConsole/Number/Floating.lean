/-!
# Binary floating-point numbers

A finite number is a sign, a significand and a power of two, all of them exact, and a format bounds
the last two. The console computes nothing with these numbers: it reads them from decimal text and
shows them again, so the one operation is rounding an exact ratio to the nearest number of a format,
with ties to the even significand.
-/

namespace ObjectConsole.Number

/-- A binary format: the bits of a significand, and the least and greatest exponent of its last
bit. -/
structure Format where
  precision : Nat
  minExponent : Int
  maxExponent : Int
  deriving DecidableEq, Repr

namespace Format

/-- The 32-bit format. -/
def single : Format := ⟨24, -149, 104⟩

/-- The 64-bit format. -/
def double : Format := ⟨53, -1074, 971⟩

end Format

/-- A number of a binary format, or one of its special values. -/
inductive Floating where
  | nan
  | infinite (negative : Bool)
  | finite (negative : Bool) (significand : Nat) (exponent : Int)
  deriving DecidableEq, Repr

namespace Floating

/-- The quotient to the nearest whole number, a half to the even one. -/
def roundHalfEven (num den : Nat) : Nat :=
  let q := num / den
  let twice := 2 * (num % den)
  if twice < den ∨ (twice = den ∧ q % 2 = 0) then q else q + 1

/-- `num / den` as the pair of natural numbers that divides it by a power of two. -/
def shift (num den : Nat) (exponent : Int) : Nat × Nat :=
  (num * Nat.pow 2 (-exponent).toNat, den * Nat.pow 2 exponent.toNat)

/-- The exponent of the greatest power of two that is at most `num / den`. -/
def magnitude (num den : Nat) : Int :=
  let guess : Int := (num.log2 : Int) - den.log2
  let scaled := shift num den guess
  if scaled.2 ≤ scaled.1 then guess else guess - 1

/-- The number of a format that is nearest to a positive ratio. -/
def ofRatio (format : Format) (negative : Bool) (num den : Nat) : Floating :=
  let exponent := max format.minExponent (magnitude num den - format.precision + 1)
  let scaled := shift num den exponent
  let significand := roundHalfEven scaled.1 scaled.2
  let carried := significand = Nat.pow 2 format.precision
  let exponent := if carried then exponent + 1 else exponent
  let significand := if carried then Nat.pow 2 (format.precision - 1) else significand
  if format.maxExponent < exponent then infinite negative
  else finite negative significand exponent

/-- The zero of a sign. -/
def zero (format : Format) (negative : Bool) : Floating :=
  finite negative 0 format.minExponent

end Floating

end ObjectConsole.Number
