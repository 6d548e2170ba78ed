import MetadataHarvest.Markup.Element
import MetadataHarvest.Markup.Reference

/-!
# Writing elements

An element is written with its attributes in order, each in double quotation marks, and
with a closing tag even when it has no content. Characters that have predefined names are
written as references, so that no part of a text looks like markup.
-/

namespace MetadataHarvest.Markup

/-- An attribute as it is written in a tag, with a space before it. -/
def writtenAttribute (a : String × String) : List Char :=
  ' ' :: a.1.toList ++ '=' :: '"' :: escape a.2.toList ++ ['"']

def openingTag (name : String) (attributes : List (String × String)) : List Char :=
  '<' :: name.toList ++ attributes.flatMap writtenAttribute ++ ['>']

def closingTag (name : String) : List Char := '<' :: '/' :: name.toList ++ ['>']

/-- Content as it is written. -/
def Content.written : Content → List Char
  | .nil => []
  | .text value rest => escape value.toList ++ rest.written
  | .element name attributes children rest =>
    openingTag name attributes ++ children.written ++ closingTag name ++ rest.written

/-- An element as it is written. -/
def Element.written (e : Element) : List Char :=
  openingTag e.name e.attributes ++ e.content.written ++ closingTag e.name

theorem bracket_not_mem_escapeChar (c : Char) : '<' ∉ escapeChar c := by
  unfold escapeChar
  split
  · decide
  split
  · decide
  · next h =>
      repeat (split; · decide)
      simpa using Ne.symm h

/-- A written text has no opening bracket. -/
theorem bracket_not_mem_escape (cs : List Char) : '<' ∉ escape cs := by
  induction cs with
  | nil => simp
  | cons c cs ih => simp [bracket_not_mem_escapeChar, ih]

end MetadataHarvest.Markup
