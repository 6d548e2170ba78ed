import MetadataHarvest.Markup.Selector
import MetadataHarvest.Text.Composition

/-!
# Records

A record is an element with a header and, unless it was withdrawn, metadata; both are
found by local name, so prefixes do not matter. The texts that documents take from a record
have their blanks collapsed and are in composed normal form, and none of them is empty.
-/

namespace MetadataHarvest.Record

open Markup

def header? (record : Element) : Option Element := record.childLocal? "header"

def metadata? (record : Element) : Option Element := record.childLocal? "metadata"

/-- Whether the repository marks the record as withdrawn. -/
def isDeleted (record : Element) : Bool :=
  ((header? record).bind (·.attribute? "status")) == some "deleted"

/-- The text of an element in normal form, if it has any. -/
def elementText? (e : Element) : Option String :=
  let text := Text.composed e.text.toList
  if text.isEmpty then none else some (String.ofList text)

/-- The text of the first element that a selector selects. -/
def firstText? (e : Element) (selector : String) : Option String :=
  (e.selectFirst? selector).bind elementText?

/-- The texts of all elements that a selector selects. -/
def allTexts (e : Element) (selector : String) : List String :=
  (e.select selector).filterMap elementText?

/-- The text of the header's child with this local name. -/
def headerText? (record : Element) (name : String) : Option String :=
  ((header? record).bind (·.childLocal? name)).bind elementText?

end MetadataHarvest.Record
