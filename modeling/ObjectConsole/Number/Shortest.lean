import ObjectConsole.Number.Floating

/-!
# The shortest decimal of a floating-point number

Among the decimals that round to a number, the one shown has the fewest digits, and of those the
nearest. Both come from one search: over the grids `10^g` from coarse to fine, the first grid with a
point in the interval of numbers that round to the given one wins, and only the two points next to
the number need to be looked at, because the interval surrounds it. Everything is compared exactly,
in units of a quarter of the last bit, where the ends of the interval are whole numbers.
-/

namespace ObjectConsole.Number.Shortest

/-- A positive decimal `digits * 10 ^ exponent`. -/
structure Decimal where
  digits : Nat
  exponent : Int
  deriving DecidableEq, Repr

/-- The interval of reals that round to a number, in units of `2 ^ unit`. -/
structure Interval where
  low : Nat
  value : Nat
  high : Nat
  unit : Int
  closed : Bool

/-- The interval around `significand * 2 ^ exponent`. Below a power of two the numbers are twice as
dense, so the lower end is half as far; the ends belong to an even significand. -/
def interval (format : Format) (significand : Nat) (exponent : Int) : Interval where
  low :=
    if significand = Nat.pow 2 (format.precision - 1) ∧ format.minExponent < exponent then
      4 * significand - 1
    else 4 * significand - 2
  value := 4 * significand
  high := 4 * significand + 2
  unit := exponent - 2
  closed := significand % 2 = 0

/-- The points of the grid `10 ^ g` next to a number that lie in its interval, nearest first and
the upper one on a tie: the first of them, if any. -/
def hit? (i : Interval) (g : Int) : Option Decimal :=
  let up := Nat.pow 2 i.unit.toNat * Nat.pow 10 (-g).toNat
  let down := Nat.pow 2 (-i.unit).toNat * Nat.pow 10 g.toNat
  let inside (n : Nat) : Bool :=
    if i.closed then i.low * up ≤ n * down && n * down ≤ i.high * up
    else i.low * up < n * down && n * down < i.high * up
  let below := i.value * up / down
  let rest := i.value * up % down
  if rest = 0 then some ⟨below, g⟩
  else
    match inside below, inside (below + 1) with
    | true, true => some ⟨if down ≤ 2 * rest then below + 1 else below, g⟩
    | true, false => some ⟨below, g⟩
    | false, true => some ⟨below + 1, g⟩
    | false, false => none

/-- A power of ten above every number of the interval. -/
def coarsest (i : Interval) : Nat :=
  (Nat.toDigits 10 (i.high * Nat.pow 2 i.unit.toNat / Nat.pow 2 (-i.unit).toNat)).length

/-- The shortest decimal of `significand * 2 ^ exponent`. The search ends at the latest on the grid
that has the number itself as a point. -/
def ofFinite (format : Format) (significand : Nat) (exponent : Int) : Decimal :=
  let i := interval format significand exponent
  let top := coarsest i
  let grids := (List.range (top + (-exponent).toNat + 1)).map fun (k : Nat) ↦ (top : Int) - k
  (grids.findSome? (hit? i)).getD
    ⟨significand * Nat.pow 2 exponent.toNat * Nat.pow 5 (-exponent).toNat, min exponent 0⟩

end ObjectConsole.Number.Shortest
