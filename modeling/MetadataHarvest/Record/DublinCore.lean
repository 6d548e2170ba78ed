import MetadataHarvest.Calendar.Pattern
import MetadataHarvest.Document.Basic
import MetadataHarvest.Record.Basic

/-!
# Dublin Core records

Each element of the vocabulary gives one field of the document, wherever it stands below
the metadata. What remains of a withdrawn record is its tombstone.
-/

namespace MetadataHarvest.DublinCore

open Markup Record

/-- The first date of the record, when it starts with a calendar date, and its year. -/
def availability? (metadata : Element) : Option (TypedDate × Int) :=
  (firstText? metadata "dc:date").bind fun value =>
    (Calendar.leadingDate? value.toList).map fun date => (⟨value, .available⟩, date.year)

/-- The links of a record, numbered from their count downwards. -/
def webLinks : List String → List WebLink
  | [] => []
  | url :: urls => ⟨url, s!"Identifier{urls.length + 1}"⟩ :: webLinks urls

/-- A document with what the metadata tells. -/
def addMetadata (document : Document) (metadata : Element) : Document :=
  let availability := availability? metadata
  { document with
    publicationYear := availability.map (·.2)
    dates := document.dates ++ (availability.map (·.1)).toList
    formats := allTexts metadata "dc:type"
    creators := allTexts metadata "dc:creator"
    contributors := allTexts metadata "dc:contributor"
    titles := allTexts metadata "dc:title"
    descriptions := allTexts metadata "dc:description"
    webLinks := webLinks (allTexts metadata "dc:identifier")
    subjects := allTexts metadata "dc:subject"
    publisher := firstText? metadata "dc:publisher"
    language := firstText? metadata "dc:language"
    relatedIdentifiers := allTexts metadata "DOI" }

/-- The document of a record. -/
def document (record : Element) : Document :=
  let identifier := headerText? record "identifier"
  let datestamp := headerText? record "datestamp"
  if isDeleted record then .tombstone identifier datestamp
  else
    let header := { identifier, dates := datestamp.toList.map (⟨·, .updated⟩) }
    match metadata? record with
    | none => header
    | some metadata => addMetadata header metadata

end MetadataHarvest.DublinCore
