import MetadataHarvest.Document.Basic
import MetadataHarvest.Json.Decimal
import MetadataHarvest.Json.Printer
import MetadataHarvest.Json.Reader

/-!
# Documents as JSON

A document is written as an object with its fields in a fixed order, and what is absent or
empty is left out. In reading, an object may have further fields, a record may also be the
array of its fields in that order, and a tag may also be an object with the tag as its only
key and null as its value.
-/

namespace MetadataHarvest

open Json Number

namespace Json

/-- An optional field. -/
def optionalField {α : Type} (key : String) (encode : α → Value) : Option α → List (String × Value)
  | none => []
  | some a => [(key, encode a)]

/-- A repeated field. -/
def repeatedField {α : Type} (key : String) (encode : α → Value) : List α → List (String × Value)
  | [] => []
  | as => [(key, .array (as.map encode))]

/-- The text of a string value. -/
def text? : Value → Option String
  | .scalar (.string text) => text
  | _ => none

/-- A value that must be this tag. -/
def tag? (name : String) : Value → Option Unit
  | .scalar (.string text) => if text = some name then some () else none
  | .object [(some key, .scalar .null)] => if key = name then some () else none
  | _ => none

/-- A floating-point number. -/
def binary64? : Value → Option Binary64
  | .scalar (.number literal) => literal.toBinary64?
  | _ => none

/-- An integer of 32 bits. -/
def int32? : Value → Option Int
  | .scalar (.number literal) =>
    literal.toInt?.filter fun n => -Int.pow 2 31 ≤ n && n < Int.pow 2 31
  | _ => none

/-- The values of the fields of a record, in the order of `names`. In an object no name may
occur twice, and every key must have a text; an array must have at least `least` items. -/
def recordFields? (names : List String) (least : Nat) : Value → Option (List (Option Value))
  | .object fields =>
    if fields.any (·.1.isNone) then none
    else if (fields.filterMap fun field => field.1.filter (names.contains ·)).Nodup then
      some (names.map fun name => fields.lookup (some name))
    else none
  | .array items =>
    if least ≤ items.length && items.length ≤ names.length then
      some (items.map some ++ List.replicate (names.length - items.length) none)
    else none
  | .scalar _ => none

/-- The values of a record's fields, none of which may be missing. -/
def wholeRecord? (names : List String) (v : Value) : Option (List Value) :=
  (recordFields? names names.length v).bind fun values => values.mapM id

/-- A field that may be missing or null. -/
def optional? {α : Type} (decode : Value → Option α) : Option Value → Option (Option α)
  | none => some none
  | some (.scalar .null) => some none
  | some v => (decode v).map some

/-- A list field, empty when it is missing. -/
def list? {α : Type} (decode : Value → Option α) : Option Value → Option (List α)
  | none => some []
  | some (.array items) => items.mapM decode
  | some _ => none

/-- A mark, false when it is missing. -/
def flag? : Option Value → Option Bool
  | none => some false
  | some (.scalar (.bool b)) => some b
  | some _ => none

/-- A record with one text field. -/
def oneText? (name : String) (v : Value) : Option String := do
  match ← wholeRecord? [name] v with
  | [a] => text? a
  | _ => none

/-- A record with a text field and a tag. -/
def tagged? (name tagName tag : String) (v : Value) : Option String := do
  match ← wholeRecord? [name, tagName] v with
  | [a, b] => do
    let text ← text? a
    tag? tag b
    return text
  | _ => none

end Json

def DateType.ofJson? (v : Value) : Option DateType :=
  DateType.all.find? fun type => (tag? type.name v).isSome

namespace TypedDate

def toJson (d : TypedDate) : Value :=
  .ofFields [("value", .ofString d.value), ("type", .ofString d.type.name)]

def ofJson? (v : Value) : Option TypedDate := do
  match ← wholeRecord? ["value", "type"] v with
  | [value, type] => return ⟨← text? value, ← DateType.ofJson? type⟩
  | _ => none

end TypedDate

namespace GeoLocation

def toJson : GeoLocation → Value
  | .point longitude latitude =>
    .ofFields [("point", .ofFields [("longitude", .scalar (.ofBinary64 longitude)),
      ("latitude", .scalar (.ofBinary64 latitude))])]
  | .box west east south north =>
    .ofFields [("box", .ofFields [("west", .scalar (.ofBinary64 west)),
      ("east", .scalar (.ofBinary64 east)), ("south", .scalar (.ofBinary64 south)),
      ("north", .scalar (.ofBinary64 north))])]

def ofJson? : Value → Option GeoLocation
  | .object [(some "point", v)] => do
    match ← (← wholeRecord? ["longitude", "latitude"] v).mapM binary64? with
    | [longitude, latitude] => return .point longitude latitude
    | _ => none
  | .object [(some "box", v)] => do
    match ← (← wholeRecord? ["west", "east", "south", "north"] v).mapM binary64? with
    | [west, east, south, north] => return .box west east south north
    | _ => none
  | _ => none

end GeoLocation

namespace ResearchData

def toJson (d : ResearchData) : Value :=
  .ofFields [("url", .ofString d.url), ("title", .ofString d.title)]

def ofJson? (v : Value) : Option ResearchData := do
  match ← wholeRecord? ["url", "title"] v with
  | [url, title] => return ⟨← text? url, ← text? title⟩
  | _ => none

end ResearchData

namespace WebLink

def toJson (l : WebLink) : Value :=
  .ofFields [("url", .ofString l.url), ("name", .ofString l.name), ("type", .ofString "ViewURL")]

def ofJson? (v : Value) : Option WebLink := do
  match ← wholeRecord? ["url", "name", "type"] v with
  | [url, name, type] => do
    tag? "ViewURL" type
    return ⟨← text? url, ← text? name⟩
  | _ => none

end WebLink

namespace RelatedIdentifier

def toJson (value : String) : Value :=
  .ofFields [("value", .ofString value), ("identifierType", .ofString "DOI"),
    ("relationType", .ofString "IsReferencedBy")]

def ofJson? (v : Value) : Option String := do
  match ← wholeRecord? ["value", "identifierType", "relationType"] v with
  | [value, identifierType, relationType] => do
    tag? "DOI" identifierType
    tag? "IsReferencedBy" relationType
    text? value
  | _ => none

end RelatedIdentifier

namespace Document

/-- The names of the fields, in the order in which they are written. -/
def fieldNames : List String :=
  ["identifier", "repositoryIdentifier", "creators", "titles", "publisher", "publicationYear",
    "resourceType", "dates", "descriptions", "geoLocations", "researchData", "webLinks",
    "relatedIdentifiers", "subjects", "contributors", "formats", "language", "deleted"]

/-- A document as an object. -/
def toJson (d : Document) : Value :=
  .ofFields <|
    optionalField "identifier" .ofString d.identifier
    ++ optionalField "repositoryIdentifier" .ofString d.repositoryIdentifier
    ++ repeatedField "creators" (fun name => .ofFields [("name", .ofString name)]) d.creators
    ++ repeatedField "titles" (fun value => .ofFields [("value", .ofString value)]) d.titles
    ++ optionalField "publisher" .ofString d.publisher
    ++ optionalField "publicationYear" (fun n => .scalar (.number (.ofInt n))) d.publicationYear
    ++ optionalField "resourceType"
      (fun value => .ofFields [("value", .ofString value), ("generalType", .ofString "Dataset")])
      d.resourceType
    ++ repeatedField "dates" TypedDate.toJson d.dates
    ++ repeatedField "descriptions"
      (fun value => .ofFields [("value", .ofString value), ("type", .ofString "Abstract")])
      d.descriptions
    ++ repeatedField "geoLocations" GeoLocation.toJson d.geoLocations
    ++ repeatedField "researchData" ResearchData.toJson d.researchData
    ++ repeatedField "webLinks" WebLink.toJson d.webLinks
    ++ repeatedField "relatedIdentifiers" RelatedIdentifier.toJson d.relatedIdentifiers
    ++ repeatedField "subjects" (fun value => .ofFields [("value", .ofString value)]) d.subjects
    ++ repeatedField "contributors"
      (fun name => .ofFields [("name", .ofString name),
        ("contributorType", .ofString "ContactPerson")])
      d.contributors
    ++ repeatedField "formats" .ofString d.formats
    ++ optionalField "language" .ofString d.language
    ++ (if d.deleted then [("deleted", .scalar (.bool true))] else [])

/-- The document that a value describes. -/
def ofJson? (v : Value) : Option Document := do
  match ← recordFields? fieldNames 17 v with
  | [identifier, repositoryIdentifier, creators, titles, publisher, publicationYear,
      resourceType, dates, descriptions, geoLocations, researchData, webLinks,
      relatedIdentifiers, subjects, contributors, formats, language, deleted] =>
    return {
      identifier := ← optional? text? identifier
      repositoryIdentifier := ← optional? text? repositoryIdentifier
      creators := ← list? (oneText? "name") creators
      titles := ← list? (oneText? "value") titles
      publisher := ← optional? text? publisher
      publicationYear := ← optional? int32? publicationYear
      resourceType := ← optional? (tagged? "value" "generalType" "Dataset") resourceType
      dates := ← list? TypedDate.ofJson? dates
      descriptions := ← list? (tagged? "value" "type" "Abstract") descriptions
      geoLocations := ← list? GeoLocation.ofJson? geoLocations
      researchData := ← list? ResearchData.ofJson? researchData
      webLinks := ← list? WebLink.ofJson? webLinks
      relatedIdentifiers := ← list? RelatedIdentifier.ofJson? relatedIdentifiers
      subjects := ← list? (oneText? "value") subjects
      contributors := ← list? (tagged? "name" "contributorType" "ContactPerson") contributors
      formats := ← list? text? formats
      language := ← optional? text? language
      deleted := ← flag? deleted }
  | _ => none

/-- A document as one line of text. -/
def line (d : Document) : String := d.toJson.text

/-- The document that a line describes. -/
def ofLine? (s : String) : Option Document := (Value.read? s).bind ofJson?

end Document

end MetadataHarvest
