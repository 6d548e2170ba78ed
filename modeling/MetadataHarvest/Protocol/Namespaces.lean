import MetadataHarvest.Text.Blank
import MetadataHarvest.Text.Word

/-!
# Removing namespaces

Responses are read without regard to namespaces. Declarations of namespaces are removed
together with the blanks before them, and then the prefix of each tag.
-/

namespace MetadataHarvest.Protocol

open Text

/-- Whether a character may stand in a prefix. -/
def isNameChar (c : Char) : Bool := isWord c || c == '.' || c == '-'

/-- What follows `word` at the front of a text. -/
def afterWord? (word cs : List Char) : Option (List Char) :=
  if word.isPrefixOf cs then some (cs.drop word.length) else none

/-- What follows a colon and a prefix at the front of a text; nothing needs to be there. -/
def afterBoundPrefix (cs : List Char) : List Char :=
  match cs with
  | ':' :: rest =>
    if (rest.takeWhile isNameChar).isEmpty then cs else rest.dropWhile isNameChar
  | _ => cs

/-- What follows a namespace declaration, which may come after blanks. -/
def afterDeclaration? (cs : List Char) : Option (List Char) := do
  let rest ← afterWord? "xmlns".toList (cs.dropWhile isBlank)
  let rest ← afterWord? ['='] ((afterBoundPrefix rest).dropWhile isBlank)
  let rest ← afterWord? ['"'] (rest.dropWhile isBlank)
  afterWord? ['"'] (rest.dropWhile (· ≠ '"'))

/-- A text without namespace declarations, of which the first `skip` characters belong to
one that is being removed. -/
def removeDeclarations : Nat → List Char → List Char
  | _, [] => []
  | skip + 1, _ :: cs => removeDeclarations skip cs
  | 0, c :: cs =>
    match if isBlank c then afterDeclaration? cs else none with
    | some rest => removeDeclarations (cs.length - rest.length) cs
    | none => c :: removeDeclarations 0 cs

/-- The number of characters of the prefix, colon included, at the front of a text. -/
def prefixLength? (cs : List Char) : Option Nat :=
  let name := cs.takeWhile isNameChar
  if !name.isEmpty && (cs.drop name.length).head? == some ':' then some (name.length + 1)
  else none

/-- A text without the prefixes of its tags, of which the first `skip` characters belong to
one that is being removed. -/
def removePrefixes : Nat → List Char → List Char
  | _, [] => []
  | skip + 1, _ :: cs => removePrefixes skip cs
  | 0, '<' :: '/' :: cs => '<' :: '/' :: removePrefixes ((prefixLength? cs).getD 0) cs
  | 0, '<' :: cs => '<' :: removePrefixes ((prefixLength? cs).getD 0) cs
  | 0, c :: cs => c :: removePrefixes 0 cs

/-- A text without namespaces. -/
def removeNamespaces (cs : List Char) : List Char :=
  removePrefixes 0 (removeDeclarations 0 cs)

end MetadataHarvest.Protocol
