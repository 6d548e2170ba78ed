import MetadataHarvest.Text.Bytes
import MetadataHarvest.Url.Percent

/-!
# Form encoding

The query of an address holds names and values, each name before an equals sign and the
pairs separated by ampersands. In both a space is written as a plus sign, letters, digits
and four marks as they are, and every other byte with a percent sign.
-/

namespace MetadataHarvest.Url.Form

open MetadataHarvest.Text

/-- Whether a character stands for itself. -/
def isPlain (c : Char) : Bool :=
  c.isAlphanum || c == '*' || c == '-' || c == '.' || c == '_'

/-- A character as it is written. -/
def encodeChar (c : Char) : List Char :=
  if c = ' ' then ['+']
  else if isPlain c then [c]
  else (utf8 [c]).flatMap percentEncode

/-- A name or a value as it is written. -/
def encode (s : String) : List Char := s.toList.flatMap encodeChar

/-- Pairs of names and values as they are written. -/
def encodePairs (pairs : List (String × String)) : List Char :=
  ['&'].intercalate (pairs.map fun pair => encode pair.1 ++ '=' :: encode pair.2)

/-- The name or value that is written so, when its bytes are a text. -/
def decode? (cs : List Char) : Option String :=
  ofUtf8? (percentDecode (utf8 (cs.map fun c => if c = '+' then ' ' else c)))

/-- The parts of `cs` between the separators. -/
def splitOn (separator : Char) : List Char → List (List Char)
  | [] => [[]]
  | c :: cs =>
    if c = separator then [] :: splitOn separator cs
    else match splitOn separator cs with
      | [] => [[c]]
      | part :: parts => (c :: part) :: parts

/-- The names and values that a query holds; parts without a character are nothing. -/
def decodePairs (cs : List Char) : List (Option String × Option String) :=
  ((splitOn '&' cs).filter (!·.isEmpty)).map fun part =>
    (decode? (part.takeWhile (· ≠ '=')), decode? ((part.dropWhile (· ≠ '=')).drop 1))

end MetadataHarvest.Url.Form
