import MetadataHarvest.Number.Literal

/-!
# JSON values

A number is kept as its literal, because whether it is an integer or a floating-point
number depends on how it is written and on what is wanted of it. A string may hold escapes
of surrogates that do not pair up; such a string has no text.
-/

namespace MetadataHarvest.Json

open MetadataHarvest.Number

/-- A number as it is written. -/
structure Literal where
  negative : Bool
  /-- The decimal digits before the point. -/
  whole : List Char
  /-- The digits after the point, when there is a point. -/
  fraction : Option (List Char)
  /-- The sign and the digits of the exponent, when there is one. -/
  exponent : Option (Bool × List Char)
  deriving DecidableEq

/-- A value without parts. -/
inductive Scalar where
  | null
  | bool (value : Bool)
  | number (literal : Literal)
  | string (text : Option String)
  deriving DecidableEq

inductive Value where
  | scalar (value : Scalar)
  | array (items : List Value)
  | object (fields : List (Option String × Value))

instance : Inhabited Value := ⟨.scalar .null⟩

namespace Value

/-- The string with this text. -/
def ofString (s : String) : Value := .scalar (.string (some s))

/-- The object with these fields. -/
def ofFields (fields : List (String × Value)) : Value :=
  .object (fields.map fun field => (some field.1, field.2))

end Value

namespace Literal

/-- The literal of an integer. -/
def ofInt (n : Int) : Literal := ⟨n < 0, Nat.toDigits 10 n.natAbs, none, none⟩

/-- The integer that a literal without point and exponent denotes. A zero with a minus sign
is no integer. -/
def toInt? (l : Literal) : Option Int :=
  if l.fraction.isSome || l.exponent.isSome then none
  else
    let n := ofDigits l.whole
    if l.negative then if n = 0 then none else some (-n) else some n

end Literal

end MetadataHarvest.Json
