import MetadataHarvest.Calendar.Year
import MetadataHarvest.Document.Basic
import MetadataHarvest.Record.Basic
import MetadataHarvest.Record.Coordinate
import MetadataHarvest.Url.Address

/-!
# Geographic records

Records of the geographic metadata standard do not fit the fields of a document one to
one. The contact organisation is taken for both creator and publisher. The year of
publication is that of the first citation date that says when the resource was issued, or
else that of the record's own datestamp. A link to data needs a title to label it.
Withdrawn records are skipped.
-/

namespace MetadataHarvest.Iso19139

open Markup Record

/-- What is written for the repository when nothing else is configured. -/
def defaultRepositoryIdentifier : String := "OAI-PMH"

/-- What a code for the type of a citation date means. -/
def dateType? (code : String) : Option DateType :=
  if code = "creation" then some .created
  else if code = "publication" then some .issued
  else if code = "revision" then some .updated
  else none

/-- The value that an element takes from a code list, if it is not blank. -/
def codeListValue? (e : Element) : Option String :=
  (e.attribute? "codeListValue").bind Text.nonBlank?

/-- The year in the first text that a selector selects. -/
def datestampYear? (metadata : Element) : Option Int :=
  (firstText? metadata "gmd:dateStamp").bind fun value => Calendar.year? value.toList

/-- What kind of resource the record describes. -/
def resourceType? (metadata : Element) : Option String :=
  (metadata.selectFirst? "gmd:hierarchyLevel gmd:MD_ScopeCode").bind fun scope =>
    (elementText? scope).orElse fun _ => codeListValue? scope

/-- The first link to the data, when it is an address and there is a title to label it. -/
def researchData? (metadata : Element) (title : Option String) : Option ResearchData := do
  let url ← firstText? metadata "gmd:distributionInfo gmd:onLine gmd:linkage gmd:URL"
  let title ← title
  if Url.isAddress url then some ⟨url, title⟩ else none

/-- A citation date, when its code has a meaning and it has a value. -/
def citationDate? (date : Element) : Option TypedDate := do
  let code ← date.selectFirst? "gmd:dateType gmd:CI_DateTypeCode"
  let type ← dateType? (← (codeListValue? code).orElse fun _ => elementText? code)
  let value ← firstText? date "gmd:date"
  return ⟨value, type⟩

/-- The citation dates, in order. -/
def citationDates (metadata : Element) : List TypedDate :=
  (metadata.select "gmd:identificationInfo gmd:citation gmd:CI_Date").filterMap citationDate?

/-- The year of the first date of issue, or else the given one. -/
def publicationYear? (dates : List TypedDate) (datestampYear : Option Int) : Option Int :=
  ((dates.find? (·.type = .issued)).bind fun date => Calendar.year? date.value.toList).orElse
    fun _ => datestampYear

/-- An edge of a bounding box. -/
def edge? (box : Element) (selector : String) : Option Number.Binary64 :=
  (firstText? box selector).bind fun value => (coordinate value).toOption

/-- The place that a bounding box describes, when all its edges are coordinates. -/
def geoLocation? (box : Element) : Option GeoLocation := do
  let west ← edge? box "gmd:westBoundLongitude"
  let east ← edge? box "gmd:eastBoundLongitude"
  let south ← edge? box "gmd:southBoundLatitude"
  let north ← edge? box "gmd:northBoundLatitude"
  return .ofBounds west east south north

/-- A document with what the metadata tells. -/
def addMetadata (document : Document) (metadata : Element) : Document :=
  let organisation :=
    firstText? metadata "gmd:contact gmd:organisationName gco:CharacterString"
  let title :=
    firstText? metadata "gmd:identificationInfo gmd:citation gmd:title gco:CharacterString"
  let dates := citationDates metadata
  { document with
    identifier := firstText? metadata "gmd:fileIdentifier gco:CharacterString"
    creators := organisation.toList
    publisher := organisation
    titles := title.toList
    publicationYear := publicationYear? dates (datestampYear? metadata)
    resourceType := resourceType? metadata
    researchData := (researchData? metadata title).toList
    dates
    descriptions :=
      (firstText? metadata "gmd:identificationInfo gmd:abstract gco:CharacterString").toList
    geoLocations := (metadata.select "gmd:EX_GeographicBoundingBox").filterMap geoLocation? }

/-- The document of a record, for the repository with this identifier; none when the record
was withdrawn. -/
def document? (repositoryIdentifier : String) (record : Element) : Option Document :=
  if isDeleted record then none
  else
    let repository : Document := { repositoryIdentifier := some repositoryIdentifier }
    some (match metadata? record with
      | none => repository
      | some metadata => addMetadata repository metadata)

end MetadataHarvest.Iso19139
