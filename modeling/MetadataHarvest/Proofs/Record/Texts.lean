import MetadataHarvest.Proofs.Markup.Descendants
import MetadataHarvest.Record.Basic

/-!
# The texts that records give

The readers of fields pass over elements without text. What they give is said here of the
descendants that a selector describes: the text of the first one, unless it is empty, or all
texts that are not, in document order. The fields of a header are its children instead.
-/

namespace MetadataHarvest.Record

open Markup

/-- The text of an element with single spaces between its words, in composed normal form. -/
def normalText (e : Element) : String := String.ofList (Text.composed e.text.toList)

/-- The texts of the descendants with a name, in document order and without empty ones. -/
def textsNamed (e : Element) (name : String) : List String :=
  ((e.named name).map normalText).filter (· ≠ "")

/-- The text of the first descendant with a name that stands in elements with the names of `path`,
if it is not empty. -/
def firstTextBelow? (e : Element) (path : List String) (name : String) : Option String :=
  ((e.below path name).head?.map normalText).filter (· ≠ "")

/-- The text of the first child with a local name, if it is not empty. -/
def childText? (e : Element) (name : String) : Option String :=
  ((e.children.find? (·.localName = name)).map normalText).filter (· ≠ "")

/-- What the first header of a record says under a name. -/
def stated? (record : Element) (name : String) : Option String :=
  (record.children.find? (·.localName = "header")).bind (childText? · name)

variable {e : Element} {selector name : String} {path : List String}

theorem elementText?_eq_guard (e : Element) :
    elementText? e = Option.guard (· ≠ "") (normalText e) := by
  unfold elementText? Option.guard normalText
  by_cases h : Text.composed e.text.toList = [] <;> simp [h]

/-- The text of an element that may be missing. -/
theorem bind_elementText? (d? : Option Element) :
    d?.bind elementText? = (d?.map normalText).filter (· ≠ "") := by
  cases d? with
  | none => rfl
  | some d =>
      rw [Option.bind_some, Option.map_some, Option.filter_some, elementText?_eq_guard,
        Option.guard]

theorem headerText?_eq (record : Element) (name : String) :
    headerText? record name = stated? record name := by
  rw [headerText?, Option.bind_assoc, stated?, header?, Element.childLocal?]
  congr 1
  funext header
  rw [bind_elementText?, childText?, Element.childLocal?]

theorem allTexts_eq (h : Selector.names selector = [name]) :
    allTexts e selector = textsNamed e name := by
  have hguard : elementText? = fun d => Option.guard (· ≠ "") (normalText d) :=
    funext elementText?_eq_guard
  rw [allTexts, Element.select_eq_named h, textsNamed, hguard, ← List.filterMap_eq_filter,
    List.filterMap_map, Function.comp_def]

theorem firstText?_eq (h : Selector.names selector = path ++ [name]) :
    firstText? e selector = firstTextBelow? e path name := by
  rw [firstText?, Element.selectFirst?, Element.select_eq_below h, firstTextBelow?,
    bind_elementText?]

end MetadataHarvest.Record
