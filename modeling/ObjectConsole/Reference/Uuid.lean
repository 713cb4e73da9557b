import ObjectConsole.Text.Cut
import ObjectConsole.Text.Digits

/-!
# Identifiers

An identifier is thirty-two hexadecimal digits. It is kept as its digits because everything asked of
it is asked of them: it is read in any letter case and in several dresses, and written in lower case
in five groups joined by hyphens.
-/

namespace ObjectConsole

open Text

/-- A universally unique identifier. -/
structure Uuid where
  digits : List (Fin 16)
  length_digits : digits.length = 32
  deriving DecidableEq, Repr

namespace Uuid

/-- The identifier of zeros. -/
def nil : Uuid := ⟨List.replicate 32 0, List.length_replicate⟩

instance : Inhabited Uuid := ⟨nil⟩

/-- The last digits of a number, as an identifier. -/
def ofNat (n : Nat) : Uuid where
  digits := (List.range 32).map fun k ↦ Fin.ofNat 16 (n / Nat.pow 16 (31 - k))
  length_digits := by simp

/-- The lengths of the groups in which digits are written. -/
def groupLengths : List Nat := [8, 4, 4, 4, 12]

/-- A list cut into consecutive groups of given lengths. -/
def groups {α : Type} : List Nat → List α → List (List α)
  | [], _ => []
  | n :: ns, l => l.take n :: groups ns (l.drop n)

/-- An identifier as it is written, as characters. -/
def chars (id : Uuid) : List Char :=
  ['-'].intercalate (groups groupLengths (id.digits.map Hex.lower))

/-- An identifier as it is written. -/
def text (id : Uuid) : String :=
  String.ofList id.chars

/-- Reads thirty-two digits. -/
def ofDigits? (s : List Char) : Option Uuid :=
  match s.mapM Hex.value? with
  | some digits => if h : digits.length = 32 then some ⟨digits, h⟩ else none
  | none => none

/-- Reads digits in hyphenated groups. -/
def ofGroups? (s : List Char) : Option Uuid :=
  let parts := s.splitOn '-'
  if parts.map List.length = groupLengths then ofDigits? parts.flatten else none

/-- The inside of a dress around hyphenated groups: a pair of braces, or a name prefix in any letter
case. -/
def undressed (s : List Char) : List Char :=
  match s with
  | '\x7b' :: rest => if rest.getLast? = some '\x7d' then rest.dropLast else s
  | _ => if (s.take 9).map Char.toLower = "urn:uuid:".toList then s.drop 9 else s

/-- Reads an identifier: thirty-two bare digits, or hyphenated groups in any dress. -/
def parse? (s : List Char) : Option Uuid :=
  if s.length = 32 then ofDigits? s else ofGroups? (undressed s)

end Uuid

end ObjectConsole
