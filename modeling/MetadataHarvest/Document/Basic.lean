import MetadataHarvest.Number.Binary64

/-!
# Documents

A document is what a harvested record becomes: optional and repeated fields modelled on
the DataCite kernel, with links and a mark for withdrawn records. Descriptions are always
abstracts, contributors contact persons, web links pages to view the resource, and related
identifiers the DOIs of resources that reference it.
-/

namespace MetadataHarvest

open Number

inductive DateType where
  | created
  | issued
  | updated
  | available
  deriving DecidableEq

namespace DateType

def name : DateType → String
  | created => "Created"
  | issued => "Issued"
  | updated => "Updated"
  | available => "Available"

/-- All types, in the order in which they are listed. -/
def all : List DateType := [created, issued, updated, available]

def ofName? (s : String) : Option DateType := all.find? (·.name = s)

@[simp] theorem ofName?_name (t : DateType) : ofName? t.name = some t := by
  cases t <;> decide

end DateType

/-- A date as the repository wrote it, and what it is the date of. -/
structure TypedDate where
  value : String
  type : DateType
  deriving DecidableEq

/-- A place on the earth, in degrees. -/
inductive GeoLocation where
  | point (longitude latitude : Binary64)
  | box (west east south north : Binary64)
  deriving DecidableEq

/-- The place between four edges; a box without extent is a point. -/
def GeoLocation.ofBounds (west east south north : Binary64) : GeoLocation :=
  if west.sameNumber east && south.sameNumber north then .point west south
  else .box west east south north

/-- A link to the data that a record describes. -/
structure ResearchData where
  url : String
  title : String
  deriving DecidableEq

/-- A page where the resource can be viewed. -/
structure WebLink where
  url : String
  name : String
  deriving DecidableEq

structure Document where
  identifier : Option String := none
  repositoryIdentifier : Option String := none
  creators : List String := []
  titles : List String := []
  publisher : Option String := none
  publicationYear : Option Int := none
  resourceType : Option String := none
  dates : List TypedDate := []
  descriptions : List String := []
  geoLocations : List GeoLocation := []
  researchData : List ResearchData := []
  webLinks : List WebLink := []
  relatedIdentifiers : List String := []
  subjects : List String := []
  contributors : List String := []
  formats : List String := []
  language : Option String := none
  deleted : Bool := false
  deriving DecidableEq

namespace Document

instance : Inhabited Document := ⟨{}⟩

/-- What remains of a withdrawn record: its identifier and when it was withdrawn. -/
def tombstone (identifier updated : Option String) : Document :=
  { identifier, dates := updated.toList.map (⟨·, .updated⟩), deleted := true }

/-- The first date of a type. -/
def dateOfType? (d : Document) (type : DateType) : Option TypedDate :=
  d.dates.find? (·.type = type)

end Document

end MetadataHarvest
