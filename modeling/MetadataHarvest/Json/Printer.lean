import MetadataHarvest.Json.Value

/-!
# Writing JSON

The text of a value has no blanks. In strings only the quotation mark, the backslash and
control characters are escaped.
-/

namespace MetadataHarvest.Json

/-- A hexadecimal digit. -/
def hexDigit (n : Nat) : Char := Nat.digitChar (n % 16)

/-- A character as it stands in a string. -/
def writtenChar (c : Char) : List Char :=
  if c = '"' then ['\\', '"']
  else if c = '\\' then ['\\', '\\']
  else if c.toNat = 8 then ['\\', 'b']
  else if c.toNat = 12 then ['\\', 'f']
  else if c = '\n' then ['\\', 'n']
  else if c = '\r' then ['\\', 'r']
  else if c = '\t' then ['\\', 't']
  else if c.toNat < 0x20 then
    ['\\', 'u', '0', '0', hexDigit (c.toNat / 16), hexDigit c.toNat]
  else [c]

/-- A string between quotation marks. A string without text is written as one surrogate. -/
def writtenString : Option String → List Char
  | some s => '"' :: s.toList.flatMap writtenChar ++ ['"']
  | none => "\"\\ud800\"".toList

def Literal.written (l : Literal) : List Char :=
  let sign := if l.negative then ['-'] else []
  let fraction := match l.fraction with
    | some digits => '.' :: digits
    | none => []
  let exponent := match l.exponent with
    | some (negative, digits) => 'e' :: (if negative then '-' else '+') :: digits
    | none => []
  sign ++ l.whole ++ fraction ++ exponent

def Scalar.written : Scalar → List Char
  | .null => "null".toList
  | .bool true => "true".toList
  | .bool false => "false".toList
  | .number literal => literal.written
  | .string text => writtenString text

namespace Value

mutual

/-- The text of a value. -/
def written : Value → List Char
  | .scalar value => value.written
  | .array items => '[' :: writtenItems items ++ [']']
  | .object fields => '\x7b' :: writtenFields fields ++ ['\x7d']

/-- The items of an array, separated by commas. -/
def writtenItems : List Value → List Char
  | [] => []
  | [item] => item.written
  | item :: items => item.written ++ ',' :: writtenItems items

/-- The fields of an object, separated by commas. -/
def writtenFields : List (Option String × Value) → List Char
  | [] => []
  | [(key, value)] => writtenString key ++ ':' :: value.written
  | (key, value) :: fields =>
    writtenString key ++ ':' :: value.written ++ ',' :: writtenFields fields

end

/-- The text of a value as a string. -/
def text (v : Value) : String := String.ofList v.written

end Value

end MetadataHarvest.Json
