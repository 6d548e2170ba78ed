/-!
# Numbers of the binary64 format

A finite magnitude is `significand * 2 ^ scale` units of `2 ^ -1074`, in the one form in
which the significand is as large as the format allows. A ratio is rounded to the nearest
magnitude, and to the one with the even significand when two are equally near.
-/

namespace MetadataHarvest.Number

/-- The quotient of `n` and `d` rounded to the nearest integer, a half to the even one. -/
def roundDiv (n d : Nat) : Nat :=
  let q := n / d
  let r := n % d
  if 2 * r < d then q else if d < 2 * r then q + 1 else q + q % 2

theorem div_le_roundDiv (n d : Nat) : n / d ≤ roundDiv n d := by
  simp only [roundDiv]
  split
  · exact Nat.le_refl _
  · split <;> omega

/-- A finite magnitude, `significand * 2 ^ scale` units of `2 ^ -1074`. -/
structure Magnitude where
  significand : Nat
  scale : Nat
  significand_lt : significand < Nat.pow 2 53
  scale_le : scale ≤ 2045
  normal : scale = 0 ∨ Nat.pow 2 52 ≤ significand
  deriving DecidableEq

namespace Magnitude

def zero : Magnitude := ⟨0, 0, by decide, by decide, Or.inl rfl⟩

instance : Inhabited Magnitude := ⟨zero⟩

/-- The value in units of `2 ^ -1074`. -/
def units (m : Magnitude) : Nat := m.significand * Nat.pow 2 m.scale

@[simp] theorem units_zero : zero.units = 0 := rfl

/-- The least scale at which a value of `whole` units, fraction dropped, fits 53 bits. -/
def scaleFor (whole : Nat) : Nat := if whole < Nat.pow 2 53 then 0 else whole.log2 - 52

theorem significand_of_scaleFor {whole : Nat} (h : scaleFor whole ≠ 0) :
    Nat.pow 2 52 ≤ whole / Nat.pow 2 (scaleFor whole) := by
  simp only [scaleFor, Nat.pow_eq] at *
  split at h
  · exact absurd rfl h
  · next hw =>
      have hne : whole ≠ 0 := by
        intro hz
        exact hw (by simp [hz])
      have hlog : 52 ≤ whole.log2 := by omega
      simp only [hw, if_false]
      rw [Nat.le_div_iff_mul_le (Nat.two_pow_pos _), ← Nat.pow_add]
      calc 2 ^ (52 + (whole.log2 - 52)) = 2 ^ whole.log2 := by congr 1; omega
        _ ≤ whole := Nat.log2_self_le hne

/-- The magnitude nearest to `n / d`, or none when it is too large for the format. -/
def ofRatio? (n d : Nat) : Option Magnitude :=
  let scaled := n * Nat.pow 2 1074
  let scale := scaleFor (scaled / d)
  let significand := roundDiv scaled (d * Nat.pow 2 scale)
  if hs : significand < Nat.pow 2 53 then
    if hm : scale ≤ 2045 then
      some {
        significand, scale
        significand_lt := hs
        scale_le := hm
        normal := by
          by_cases h : scale = 0
          · exact Or.inl h
          · refine Or.inr (Nat.le_trans (significand_of_scaleFor h) ?_)
            rw [Nat.div_div_eq_div_mul]
            exact div_le_roundDiv _ _ }
    else none
  else if hm : scale + 1 ≤ 2045 then
    some ⟨Nat.pow 2 52, scale + 1, by decide, hm, Or.inr (Nat.le_refl _)⟩
  else none

/-- The magnitude nearest to the product. -/
def mul? (a b : Magnitude) : Option Magnitude :=
  ofRatio? (a.units * b.units) (Nat.pow 2 2148)

/-- The magnitude nearest to the quotient. -/
def div? (a b : Magnitude) : Option Magnitude := ofRatio? a.units b.units

end Magnitude

/-- A number of the binary64 format. -/
inductive Binary64 where
  | finite (negative : Bool) (magnitude : Magnitude)
  | infinite (negative : Bool)
  | nan
  deriving DecidableEq

namespace Binary64

instance : Inhabited Binary64 := ⟨.finite false .zero⟩

def isFinite : Binary64 → Bool
  | .finite .. => true
  | _ => false

/-- Equality of numbers: the two zeros are equal, and what is not a number equals nothing. -/
def sameNumber : Binary64 → Binary64 → Bool
  | .finite s a, .finite t b => a = b && (s == t || a.significand = 0)
  | .infinite s, .infinite t => s == t
  | _, _ => false

/-- The number nearest to `n / d` with the given sign. -/
def ofRatio (negative : Bool) (n d : Nat) : Binary64 :=
  match Magnitude.ofRatio? n d with
  | some m => .finite negative m
  | none => .infinite negative

/-- The count of decimal digits of `n`; 0 has none. -/
def digitCount (n : Nat) : Nat := if n = 0 then 0 else (Nat.toDigits 10 n).length

/-- The number nearest to `digits * 10 ^ exponent` with the given sign.

A value of at least `10 ^ 311` is infinite and one below `10 ^ -331` is zero, whatever its
digits, so that a huge exponent costs nothing. -/
def ofDecimal (negative : Bool) (digits : Nat) (exponent : Int) : Binary64 :=
  let size : Int := digitCount digits + exponent
  if digits = 0 || size < -330 then .finite negative .zero
  else if 311 < size then .infinite negative
  else if 0 ≤ exponent then ofRatio negative (digits * Nat.pow 10 exponent.toNat) 1
  else ofRatio negative digits (Nat.pow 10 (-exponent).toNat)

end Binary64

end MetadataHarvest.Number
