import ObjectConsole.Number.Shortest
import ObjectConsole.Text.Digits

/-!
# The text of a floating-point number

Numbers are read from decimal text with an optional fraction and exponent, or by name, and written
in two ways from the same shortest digits: plainly, always positional, with no point in a whole
number; and descriptively, with at least one decimal and with an exponent for numbers below `10^-4`
or from `10^16` on.
-/

namespace ObjectConsole.Number

open ObjectConsole.Text

namespace Floating

/-- Why a text is no number. -/
inductive Fault where
  | empty | invalid
  deriving DecidableEq, Repr

/-- The wording of a fault. -/
def Fault.message : Fault → String
  | empty => "cannot parse float from empty string"
  | invalid => "invalid float literal"

/-! ## Reading -/

/-- The number nearest to `digits * 10 ^ exponent`, where `digits` has the given count of digits.
Far outside the range of every format the answer is known without computing the power. -/
def ofDecimal (format : Format) (negative : Bool) (digits count : Nat) (exponent : Int) :
    Floating :=
  let top : Int := count + exponent
  if digits = 0 ∨ top < -400 then zero format negative
  else if 400 < top then infinite negative
  else ofRatio format negative (digits * Nat.pow 10 exponent.toNat)
    (Nat.pow 10 (-exponent).toNat)

/-- The exponent behind the mantissa: nothing, or `e`, an optional sign and digits to the end. -/
def readExponent : List Char → Option Int
  | [] => some 0
  | c :: rest =>
    if c = 'e' ∨ c = 'E' then
      let signed := match rest with
        | '+' :: digits => (false, digits)
        | '-' :: digits => (true, digits)
        | digits => (false, digits)
      match Decimal.leading signed.2 with
      | ([], _) => none
      | (digits, []) =>
        some (if signed.1 then -(Decimal.number digits : Int) else Decimal.number digits)
      | _ => none
    else none

/-- An unsigned number in digits. -/
def readMantissa (format : Format) (negative : Bool) (text : List Char) : Option Floating :=
  let whole := Decimal.leading text
  let fraction := match whole.2 with
    | '.' :: rest => Decimal.leading rest
    | rest => ([], rest)
  let digits := whole.1 ++ fraction.1
  if digits.isEmpty then none
  else
    (readExponent fraction.2).map fun exponent ↦
      let significant := digits.dropWhile (· == 0)
      ofDecimal format negative (Decimal.number significant) significant.length
        (exponent - fraction.1.length)

/-- An unsigned number in digits or by name, in any letter case. -/
def readUnsigned (format : Format) (negative : Bool) (text : List Char) : Option Floating :=
  let name := text.map Char.toLower
  if name = "nan".toList then some nan
  else if name = "inf".toList ∨ name = "infinity".toList then some (infinite negative)
  else readMantissa format negative text

/-- Reads a number: one optional sign, then digits or a name. -/
def read (format : Format) (text : List Char) : Except Fault Floating :=
  match text with
  | [] => .error .empty
  | '+' :: rest => (readUnsigned format false rest).elim (.error .invalid) .ok
  | '-' :: rest => (readUnsigned format true rest).elim (.error .invalid) .ok
  | rest => (readUnsigned format false rest).elim (.error .invalid) .ok

/-! ## Writing -/

/-- The digits around the point: before it and after it. -/
def positional (d : Shortest.Decimal) : List Char × List Char :=
  let digits := Decimal.ofNat d.digits
  if 0 ≤ d.exponent then (digits ++ List.replicate d.exponent.toNat '0', [])
  else
    let places := (-d.exponent).toNat
    if places < digits.length then digits.splitAt (digits.length - places)
    else (['0'], List.replicate (places - digits.length) '0' ++ digits)

/-- The shortest decimal of a significand and exponent, zero included. -/
def decimal (format : Format) (significand : Nat) (exponent : Int) : Shortest.Decimal :=
  if significand = 0 then ⟨0, 0⟩ else Shortest.ofFinite format significand exponent

/-- The sign of a number. -/
def sign (negative : Bool) : List Char :=
  if negative then ['-'] else []

/-- A number, plainly. -/
def text (format : Format) : Floating → List Char
  | nan => "NaN".toList
  | infinite negative => sign negative ++ "inf".toList
  | finite negative significand exponent =>
    let parts := positional (decimal format significand exponent)
    sign negative ++ parts.1 ++ if parts.2.isEmpty then [] else '.' :: parts.2

/-- A decimal with one digit before the point and an exponent. -/
def scientific (d : Shortest.Decimal) : List Char :=
  let digits := Decimal.ofNat d.digits
  let fraction := digits.drop 1
  digits.take 1 ++ (if fraction.isEmpty then [] else '.' :: fraction) ++
    'e' :: Decimal.ofInt (d.exponent + fraction.length)

/-- A number, descriptively. -/
def description (format : Format) : Floating → List Char
  | nan => "NaN".toList
  | infinite negative => sign negative ++ "inf".toList
  | finite negative significand exponent =>
    let d := decimal format significand exponent
    let leading := d.exponent + (Decimal.ofNat d.digits).length - 1
    let parts := positional d
    sign negative ++
      if d.digits ≠ 0 ∧ (leading < -4 ∨ 16 ≤ leading) then scientific d
      else parts.1 ++ '.' :: if parts.2.isEmpty then ['0'] else parts.2

end Floating

end ObjectConsole.Number
