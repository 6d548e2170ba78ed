import MetadataHarvest.Text.Blank

/-!
# Elements

An element has a qualified name exactly as written, attributes in order, and mixed
content. Its text is the words of all character data below it.

## Implementation notes

Content is a list of character data and elements in which an element carries both its own
content and what follows it, so that functions on trees recurse on one type.
-/

namespace MetadataHarvest.Markup

/-- Mixed content in document order. -/
inductive Content where
  | nil
  | text (value : String) (rest : Content)
  | element (name : String) (attributes : List (String × String)) (children rest : Content)
  deriving DecidableEq

structure Element where
  name : String
  attributes : List (String × String)
  content : Content
  deriving DecidableEq

/-- One child of an element. -/
inductive Node where
  | text (value : String)
  | element (e : Element)
  deriving DecidableEq

namespace Content

instance : Inhabited Content := ⟨.nil⟩

/-- The content of these nodes. -/
def ofNodes : List Node → Content
  | [] => nil
  | .text value :: nodes => text value (ofNodes nodes)
  | .element e :: nodes => element e.name e.attributes e.content (ofNodes nodes)

/-- The nodes of the top level. -/
def nodes : Content → List Node
  | nil => []
  | text value rest => .text value :: rest.nodes
  | element name attributes children rest =>
    .element ⟨name, attributes, children⟩ :: rest.nodes

@[simp] theorem nodes_ofNodes (ns : List Node) : (ofNodes ns).nodes = ns := by
  induction ns with
  | nil => rfl
  | cons n ns ih => cases n <;> simp [ofNodes, nodes, ih]

@[simp] theorem ofNodes_nodes (c : Content) : ofNodes c.nodes = c := by
  induction c with
  | nil => rfl
  | text value rest ih => simp [nodes, ofNodes, ih]
  | element name attributes children rest _ ih => simp [nodes, ofNodes, ih]

/-- The elements of the top level. -/
def elements : Content → List Element
  | nil => []
  | text _ rest => rest.elements
  | element name attributes children rest => ⟨name, attributes, children⟩ :: rest.elements

/-- All character data, at any depth, in document order. -/
def texts : Content → List String
  | nil => []
  | text value rest => value :: rest.texts
  | element _ _ children rest => children.texts ++ rest.texts

/-- The words of all character data. -/
def words (c : Content) : List (List Char) := c.texts.flatMap fun t => Text.words t.toList

end Content

/-- The part of a qualified name after its last colon. -/
def localPart (name : String) : String :=
  String.ofList (name.toList.reverse.takeWhile (· ≠ ':')).reverse

namespace Element

instance : Inhabited Element := ⟨⟨"", [], .nil⟩⟩

/-- The name without its prefix. -/
def localName (e : Element) : String := localPart e.name

/-- The value of the attribute with this qualified name. -/
def attribute? (e : Element) (name : String) : Option String := e.attributes.lookup name

def nodes (e : Element) : List Node := e.content.nodes

/-- The child elements. -/
def children (e : Element) : List Element := e.content.elements

/-- The first child element with this qualified name. -/
def child? (e : Element) (name : String) : Option Element :=
  e.children.find? (·.name = name)

/-- The first child element with this local name, whatever its prefix. -/
def childLocal? (e : Element) (name : String) : Option Element :=
  e.children.find? (·.localName = name)

/-- The words of all character data below the element, joined by single spaces. -/
def text (e : Element) : String := String.ofList (Text.joinWords e.content.words)

end Element

end MetadataHarvest.Markup
