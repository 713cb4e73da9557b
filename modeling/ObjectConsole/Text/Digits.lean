/-!
# Digits

Hexadecimal digits are read in either letter case and written in one of two: identifiers and code
points use lower case, percent escapes upper case. Whole numbers are written in decimal digits, with
the fewest of them and an optional minus sign. Everything that reads decimal digits reads them
through `Decimal.value?`, which knows the ten ASCII digits and no others.
-/

namespace ObjectConsole.Text.Hex

/-- The value of a hexadecimal digit in either letter case. -/
def value? (c : Char) : Option (Fin 16) :=
  let n := c.toNat
  if h : 48 ≤ n ∧ n ≤ 57 then some ⟨n - 48, by omega⟩
  else if h : 97 ≤ n ∧ n ≤ 102 then some ⟨n - 87, by omega⟩
  else if h : 65 ≤ n ∧ n ≤ 70 then some ⟨n - 55, by omega⟩
  else none

/-- The lower-case digit of a value. -/
def lower (d : Fin 16) : Char :=
  Char.ofNat (if d.val < 10 then 48 + d.val else 87 + d.val)

/-- The upper-case digit of a value. -/
def upper (d : Fin 16) : Char :=
  Char.ofNat (if d.val < 10 then 48 + d.val else 55 + d.val)

theorem value?_lower : ∀ d : Fin 16, value? (lower d) = some d := by decide

theorem value?_upper : ∀ d : Fin 16, value? (upper d) = some d := by decide

end ObjectConsole.Text.Hex

namespace ObjectConsole.Text.Decimal

/-- The value of a decimal digit. -/
def value? (c : Char) : Option Nat :=
  if 48 ≤ c.toNat ∧ c.toNat ≤ 57 then some (c.toNat - 48) else none

theorem value?_eq_some_iff {c : Char} {d : Nat} :
    value? c = some d ↔ d < 10 ∧ c.toNat = 48 + d := by
  unfold value?
  split <;> simp <;> omega

/-- A natural number in digits. -/
def ofNat (n : Nat) : List Char :=
  Nat.toDigits 10 n

/-- A whole number in digits. -/
def ofInt (n : Int) : List Char :=
  if n < 0 then '-' :: ofNat n.natAbs else ofNat n.natAbs

/-- The number that a run of digit values spells. -/
def number (digits : List Nat) : Nat :=
  digits.foldl (fun n d ↦ 10 * n + d) 0

/-- The digits at the start of a text, and what follows them. -/
def leading : List Char → List Nat × List Char
  | [] => ([], [])
  | c :: rest =>
    match value? c with
    | some d => (d :: (leading rest).1, (leading rest).2)
    | none => ([], c :: rest)

end ObjectConsole.Text.Decimal
