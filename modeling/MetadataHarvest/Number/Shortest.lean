import MetadataHarvest.Number.Binary64

/-!
# Shortest decimal digits

The fewest decimal digits that read back as a given magnitude. On the grid of each digit
count only the two neighbours of the value can read back, and the first grid on which one
of them does is taken; of two the nearer, and of two equally near the even one.
-/

namespace MetadataHarvest.Number

/-- Decimal digits read as `digits * 10 ^ exponent`. -/
structure Decimal where
  digits : Nat
  exponent : Int
  deriving DecidableEq

namespace Magnitude

/-- The exponent of the first decimal digit of a positive magnitude. -/
def decimalExponent (m : Magnitude) : Int :=
  Binary64.digitCount (m.units * Nat.pow 10 324 / Nat.pow 2 1074) - 325

/-- The value on the grid of step `10 ^ exponent`, as a numerator and a denominator. -/
def onGrid (m : Magnitude) (exponent : Int) : Nat × Nat :=
  if 0 ≤ exponent then (m.units, Nat.pow 2 1074 * Nat.pow 10 exponent.toNat)
  else (m.units * Nat.pow 10 (-exponent).toNat, Nat.pow 2 1074)

/-- Four times the distance from the value to the ends of the interval that rounds to it,
below and above, in units of the last place of the significand. -/
def margins (m : Magnitude) : Nat × Nat :=
  (if m.significand = Nat.pow 2 52 && 0 < m.scale then 1 else 2, 2)

/-- Whether the grid point `point` reads back as the magnitude. -/
def readsBack (m : Magnitude) (exponent : Int) (point : Nat) : Bool :=
  let (num, den) := m.onGrid exponent
  let (below, above) := m.margins
  let even := m.significand % 2 = 0
  let candidate := 4 * m.significand * point * den
  let lower := (4 * m.significand - below) * num
  let upper := (4 * m.significand + above) * num
  if even then lower ≤ candidate && candidate ≤ upper
  else lower < candidate && candidate < upper

/-- The grid point of step `10 ^ exponent` that reads back as the magnitude and is nearest
to it, if there is one. -/
def nearestOnGrid? (m : Magnitude) (exponent : Int) : Option Nat :=
  let (num, den) := m.onGrid exponent
  let point := num / den
  match m.readsBack exponent point, m.readsBack exponent (point + 1) with
  | false, false => none
  | true, false => some point
  | false, true => some (point + 1)
  | true, true => some (roundDiv num den)

/-- The grids from the coarsest on, `grids` of them. -/
def shortestFrom (m : Magnitude) (exponent : Int) : Nat → Decimal
  | 0 => ⟨(m.onGrid exponent).1 / (m.onGrid exponent).2, exponent⟩
  | grids + 1 =>
    match m.nearestOnGrid? exponent with
    | some digits => ⟨digits, exponent⟩
    | none => shortestFrom m (exponent - 1) grids

end Magnitude

namespace Decimal

/-- The same value without trailing zeros among its digits. -/
def reduce (d : Decimal) : Decimal :=
  if h : 0 < d.digits ∧ d.digits % 10 = 0 then reduce ⟨d.digits / 10, d.exponent + 1⟩ else d
termination_by d.digits
decreasing_by
  exact Nat.div_lt_self h.1 (by decide)

end Decimal

/-- The shortest decimal that reads back as `m`. -/
def Magnitude.shortest (m : Magnitude) : Decimal :=
  if m.significand = 0 then ⟨0, 0⟩ else (m.shortestFrom m.decimalExponent 17).reduce

end MetadataHarvest.Number
