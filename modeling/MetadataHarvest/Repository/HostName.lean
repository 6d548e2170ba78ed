import MetadataHarvest.Text.Blank
import MetadataHarvest.Text.Scan
import MetadataHarvest.Text.Uppercase
import MetadataHarvest.Text.Word

/-!
# Names from addresses

A repository that does not tell its name is called after its host: the host begins with a
word character, which becomes upper case, and it may stand after a scheme of the web and
after `www.`.
-/

namespace MetadataHarvest.HostName

open Text

/-- Whether a character belongs to a host. -/
def isHostChar (c : Char) : Bool := c ≠ '/' && c ≠ '?' && c ≠ '#' && c ≠ ':'

/-- The text after any of these openings that it has, and the text itself. -/
def afterAny (openings : List String) (cs : List Char) : List (List Char) :=
  (openings.filterMap fun opening =>
    if opening.toList.isPrefixOf cs then some (cs.drop opening.length) else none) ++ [cs]

/-- The name that a text gives when the host begins with it. -/
def ofHost? : List Char → Option (List Char)
  | [] => none
  | c :: cs =>
    let rest := cs.takeWhile isHostChar
    if isWord c && !rest.isEmpty then some (uppercase c ++ rest) else none

/-- What a repository is called whose name cannot be found. -/
def unknown : String := "Unknown Provider"

/-- The name that an address gives. -/
def ofAddress (address : String) : String :=
  let starts := (afterAny ["https://", "http://"] (trim address.toList)).flatMap (afterAny ["www."])
  ((starts.findSome? ofHost?).map String.ofList).getD unknown

end MetadataHarvest.HostName
