import MetadataHarvest.Json.Value
import MetadataHarvest.Number.Shortest

/-!
# Floating-point numbers in JSON

A number is written with the fewest digits that read back. Reading is fast and not always
nearest: the first digits, as many as 64 bits hold, are scaled by one power of ten, so the
result may be off by the error of one multiplication or division.
-/

namespace MetadataHarvest.Json

open MetadataHarvest.Number

/-- How a floating-point number is laid out: with decimal exponents from `least` to `most`
positionally, with others as one digit, the further digits and a signed exponent. -/
structure Layout where
  least : Int
  most : Int

/-- Values from 0.00001 up to below 10^16 are written positionally. -/
def Layout.standard : Layout := ⟨-5, 15⟩

namespace Layout

/-- The literal of `digits * 10 ^ exponent`, for digits that do not end in a zero. -/
def literal (layout : Layout) (negative : Bool) (decimal : Decimal) : Literal :=
  let digits := Nat.toDigits 10 decimal.digits
  let size : Int := digits.length + decimal.exponent
  if decimal.digits = 0 then ⟨negative, ['0'], some ['0'], none⟩
  else if size - 1 < layout.least || layout.most < size - 1 then
    let fraction := if digits.tail.isEmpty then none else some digits.tail
    ⟨negative, digits.take 1, fraction,
      some (size - 1 < 0, Nat.toDigits 10 (size - 1).natAbs)⟩
  else if size ≤ 0 then
    ⟨negative, ['0'], some (List.replicate (-size).toNat '0' ++ digits), none⟩
  else
    let whole := digits.take size.toNat
    let fraction := digits.drop size.toNat
    ⟨negative, whole ++ List.replicate (size.toNat - digits.length) '0',
      some (if fraction.isEmpty then ['0'] else fraction), none⟩

end Layout

/-- A number as a value; what is not finite has no literal and becomes null. -/
def Scalar.ofBinary64 : Binary64 → Scalar
  | .finite negative magnitude =>
    .number (Layout.standard.literal negative magnitude.shortest)
  | .infinite _ | .nan => .null

/-- One more than the largest significand that reading collects. -/
def significandBound : Nat := Nat.pow 2 64

/-- Appends decimal digits to `n` as long as the result stays below the bound; what is left
are the digits that did not fit. -/
def collectDigits (n : Nat) : List Char → Nat × List Char
  | [] => (n, [])
  | c :: cs =>
    let next := n * 10 + ofDigits [c]
    if next < significandBound then collectDigits next cs else (n, c :: cs)

/-- The largest exponent of a power of ten that a finite number has. -/
def largestPower : Nat := 308

/-- `f` divided by `10 ^ n` in steps of the largest power. -/
def divideByPower (f : Magnitude) (n : Nat) : Magnitude :=
  if n ≤ largestPower then
    (((Magnitude.ofRatio? (Nat.pow 10 n) 1).bind f.div?)).getD .zero
  else if f.significand = 0 then f
  else divideByPower
    (((Magnitude.ofRatio? (Nat.pow 10 largestPower) 1).bind f.div?).getD .zero) (n - largestPower)
termination_by n
decreasing_by
  simp only [largestPower] at *
  omega

/-- `f * 10 ^ exponent`, rounded once for each power of ten that is used; none when it is
too large. -/
def scaleByPower? (f : Magnitude) (exponent : Int) : Option Magnitude :=
  if exponent < 0 then some (divideByPower f exponent.natAbs)
  else if exponent.natAbs ≤ largestPower then
    (Magnitude.ofRatio? (Nat.pow 10 exponent.natAbs) 1).bind f.mul?
  else if f.significand = 0 then some f
  else none

namespace Literal

/-- One more than the largest exponent that is read. -/
def exponentBound : Nat := Nat.pow 2 31

/-- The magnitude that a literal denotes; none when it is too large. -/
def magnitude? (l : Literal) : Option Magnitude :=
  let (n, wholeLeft) := collectDigits 0 l.whole
  let fraction := l.fraction.getD []
  let (significand, fractionLeft) := collectDigits n fraction
  let shift : Int := (wholeLeft.length : Int) - (fraction.length - fractionLeft.length : Nat)
  (Magnitude.ofRatio? significand 1).bind fun f =>
    match l.exponent with
    | none => scaleByPower? f shift
    | some (negative, digits) =>
      if exponentBound ≤ ofDigits digits then
        if significand ≠ 0 && !negative then none else some .zero
      else
        scaleByPower? f
          (if negative then shift - ofDigits digits else shift + ofDigits digits)

/-- The number that a literal denotes; none when it is too large. -/
def toBinary64? (l : Literal) : Option Binary64 := l.magnitude?.map (.finite l.negative)

end Literal

end MetadataHarvest.Json
