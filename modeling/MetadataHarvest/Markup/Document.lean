import MetadataHarvest.Markup.Attribute
import MetadataHarvest.Markup.Element

/-!
# Reading a document

A document is read token by token with the elements that are open kept on a stack. Outer
white space of character data is dropped before references are replaced, and character
data that is empty then is dropped as well; CDATA sections are kept as they are. Comments,
processing instructions and document type declarations leave no trace.
-/

namespace MetadataHarvest.Markup

/-- Why a text is no document. -/
inductive Fault where
  /-- The text is not well-formed. -/
  | malformed
  /-- The text ends inside an element with this name. -/
  | unclosed (name : String)
  | noRoot
  deriving DecidableEq

/-- An element that is open, with its children so far, the latest first. -/
structure OpenElement where
  name : String
  attributes : List (String × String)
  children : List Node

namespace OpenElement

def close (e : OpenElement) : Element :=
  ⟨e.name, e.attributes, .ofNodes e.children.reverse⟩

def push (e : OpenElement) (n : Node) : OpenElement := { e with children := n :: e.children }

end OpenElement

/-- The elements that are open, innermost first, and the first element that was complete. -/
structure Progress where
  stack : List OpenElement
  root : Option Element

namespace Progress

def start : Progress := ⟨[], none⟩

/-- Adds a node to the innermost open element; outside of all, only the first element
counts. -/
def attach (p : Progress) (n : Node) : Progress :=
  match p.stack with
  | e :: outer => { p with stack := e.push n :: outer }
  | [] => match n with
    | .element e => { p with root := p.root.orElse fun _ => some e }
    | .text _ => p

/-- Character data as written. -/
def text? (p : Progress) (raw : List Char) : Option Progress :=
  if p.stack.isEmpty || (trimSpace raw).isEmpty then some p
  else (unescape? (trimSpace raw)).map fun value => p.attach (.text (String.ofList value))

def opening? (p : Progress) (name : String) (written : List Char) (selfClosing : Bool) :
    Option Progress :=
  (attributes? written).map fun attributes =>
    if selfClosing then p.attach (.element ⟨name, attributes, .nil⟩)
    else { p with stack := ⟨name, attributes, []⟩ :: p.stack }

/-- Closes the innermost open element, whose name must be this one. -/
def closing? (p : Progress) (name : String) : Option Progress :=
  match p.stack with
  | e :: outer =>
    if e.name = name then some ({ p with stack := outer }.attach (.element e.close)) else none
  | [] => none

/-- The progress after one more token, when the text is well-formed so far. -/
def step? (p : Progress) : Token → Option Progress
  | .text raw => p.text? raw
  | .cdata content => some (p.attach (.text (String.ofList content)))
  | .comment _ | .instruction _ | .doctype _ => some p
  | .opening name written selfClosing => p.opening? name written selfClosing
  | .closing name => p.closing? name
  | .malformed => none

/-- The root element, when the text may end here. -/
def finish (p : Progress) : Except Fault Element :=
  match p.stack, p.root with
  | e :: _, _ => .error (.unclosed e.name)
  | [], none => .error .noRoot
  | [], some root => .ok root

end Progress

/-- The root element of a document. -/
def Element.parse (s : String) : Except Fault Element :=
  match (documentTokens s.toList).foldlM Progress.step? .start with
  | none => .error .malformed
  | some p => p.finish

end MetadataHarvest.Markup
