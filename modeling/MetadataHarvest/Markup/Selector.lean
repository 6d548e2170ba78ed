import MetadataHarvest.Markup.Element

/-!
# Descendant selectors

A selector is a list of qualified names separated by blanks. It selects the descendants
that have its last name and among whose ancestors, up to the element that is searched, the
other names occur in order, with gaps allowed. What is selected comes in document order.
-/

namespace MetadataHarvest.Markup

/-- A selector from its last name upwards. -/
structure Selector where
  target : String
  ancestors : List String

namespace Selector

/-- The selector that a text describes; a text without a name describes none. -/
def ofText? (s : String) : Option Selector :=
  match ((Text.words s.toList).map String.ofList).reverse with
  | [] => none
  | target :: ancestors => some ⟨target, ancestors⟩

/-- Whether the names `wanted` occur in order in the ancestors `above`, innermost first. -/
def reaches : List String → List String → Bool
  | [], _ => true
  | _ :: _, [] => false
  | want :: wanted, name :: above =>
    if want = name then reaches wanted above else reaches (want :: wanted) above

/-- Whether an element with this name below these ancestors is selected. -/
def admits (s : Selector) (above : List String) (name : String) : Bool :=
  s.target = name && reaches s.ancestors above

end Selector

/-- The elements of the content that are selected below the ancestors `above`. -/
def Content.select (s : Selector) (above : List String) : Content → List Element
  | .nil => []
  | .text _ rest => rest.select s above
  | .element name attributes children rest =>
    let deeper := children.select s (name :: above) ++ rest.select s above
    if s.admits above name then ⟨name, attributes, children⟩ :: deeper else deeper

namespace Element

/-- The descendants that a selector selects. -/
def select (e : Element) (selector : String) : List Element :=
  match Selector.ofText? selector with
  | none => []
  | some s => e.content.select s []

/-- The first descendant that a selector selects. -/
def selectFirst? (e : Element) (selector : String) : Option Element :=
  (e.select selector).head?

end Element

end MetadataHarvest.Markup
