import MetadataHarvest.Markup.Printer
import MetadataHarvest.Markup.Token

/-!
# Trees with a text of their own

A tree can be read back from its written form when its names are names, no element has two
attributes of one name, and its character data is what a reader would find there: none of it is
empty or has outer white space, and no two pieces of it are neighbours.
-/

namespace MetadataHarvest.Markup

/-- The characters with which a name may begin. -/
def isNameStart (c : Char) : Bool := c.isAlpha || c == '_'

/-- The characters that a name may have. -/
def isNameChar (c : Char) : Bool :=
  c.isAlphanum || c == '_' || c == '-' || c == '.' || c == ':'

theorem isNameChar_of_isNameStart {c : Char} (h : isNameStart c = true) :
    isNameChar c = true := by
  simp only [isNameStart, isNameChar, Char.isAlphanum, Bool.or_eq_true] at *
  rcases h with h | h <;> simp [h]

/-- Whether a text is the name of an element or an attribute. -/
def isName (s : String) : Bool :=
  match s.toList with
  | [] => false
  | c :: cs => isNameStart c && cs.all isNameChar

/-- Whether character data has no outer white space and is not empty. -/
def isFilled (s : String) : Bool := !s.toList.isEmpty && trimSpace s.toList == s.toList

/-- Whether the attributes of an element have names, and different ones. -/
def areAttributes (attributes : List (String × String)) : Bool :=
  attributes.all (isName ·.1) && decide (attributes.map (·.1)).Nodup

namespace Content

/-- Whether character data comes first. -/
def beginsWithText : Content → Bool
  | text _ _ => true
  | _ => false

/-- Whether all elements and attributes have names. -/
def isNamed : Content → Bool
  | nil => true
  | text _ rest => rest.isNamed
  | element name attributes children rest =>
    isName name && attributes.all (isName ·.1) && children.isNamed && rest.isNamed

/-- Whether the content can be read back from its written form. -/
def isCanonical : Content → Bool
  | nil => true
  | text value rest => isFilled value && !rest.beginsWithText && rest.isCanonical
  | element name attributes children rest =>
    isName name && areAttributes attributes && children.isCanonical && rest.isCanonical

end Content

namespace Element

/-- The content that consists of one element. -/
def alone (e : Element) : Content := .element e.name e.attributes e.content .nil

@[simp] theorem nodes_alone (e : Element) : e.alone.nodes = [.element e] := rfl

@[simp] theorem written_alone (e : Element) : e.alone.written = e.written := by
  simp [alone, Content.written, written]

/-- Whether the element and all below it, and their attributes, have names. -/
def isNamed (e : Element) : Bool := e.alone.isNamed

/-- Whether the element can be read back from its written form. -/
def isCanonical (e : Element) : Bool := e.alone.isCanonical

end Element

end MetadataHarvest.Markup
