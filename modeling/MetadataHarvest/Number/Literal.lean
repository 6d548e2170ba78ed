import MetadataHarvest.Number.Binary64
import MetadataHarvest.Number.Digits

/-!
# Floating-point literals

A literal is an optional sign followed by digits with an optional point and exponent, or
by one of the words `inf`, `infinity` and `nan` in any letter case. At least one digit is
needed, before or after the point.
-/

namespace MetadataHarvest.Number

/-- Why a text is no literal. -/
inductive LiteralFault where
  | empty
  | invalid
  deriving DecidableEq

def LiteralFault.message : LiteralFault → String
  | .empty => "cannot parse float from empty string"
  | .invalid => "invalid float literal"

/-- Splits off an optional sign; true means a minus. -/
def splitSign : List Char → Bool × List Char
  | '-' :: cs => (true, cs)
  | '+' :: cs => (false, cs)
  | cs => (false, cs)

/-- The exponent that ends a literal; nothing means 0. -/
def exponent? : List Char → Option Int
  | [] => some 0
  | c :: cs =>
    if c == 'e' || c == 'E' then
      let (negative, digits) := splitSign cs
      if digits.isEmpty || !digits.all isDigit then none
      else some (if negative then -(ofDigits digits : Int) else ofDigits digits)
    else none

/-- A literal without its sign, when it is made of digits. -/
def unsignedDecimal? (cs : List Char) : Option (Nat × Int) :=
  let whole := cs.takeWhile isDigit
  match cs.dropWhile isDigit with
  | '.' :: rest =>
    let fraction := rest.takeWhile isDigit
    if whole.isEmpty && fraction.isEmpty then none
    else (exponent? (rest.dropWhile isDigit)).map fun e =>
      (ofDigits (whole ++ fraction), e - fraction.length)
  | rest => if whole.isEmpty then none else (exponent? rest).map fun e => (ofDigits whole, e)

/-- The number that a literal denotes, rounded to the nearest. -/
def readLiteral (cs : List Char) : Except LiteralFault Binary64 :=
  if cs.isEmpty then .error .empty
  else
    let (negative, body) := splitSign cs
    let word := String.ofList (body.map Char.toLower)
    if word = "inf" || word = "infinity" then .ok (.infinite negative)
    else if word = "nan" then .ok .nan
    else match unsignedDecimal? body with
      | some (digits, exponent) => .ok (.ofDecimal negative digits exponent)
      | none => .error .invalid

end MetadataHarvest.Number
