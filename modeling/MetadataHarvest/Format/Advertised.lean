import MetadataHarvest.Format.Catalog
import MetadataHarvest.Json.Printer

/-!
# Advertised formats

The prefixes under which a repository offers its records, each with the schema of its
format, in the order in which the repository names them.
-/

namespace MetadataHarvest

structure AdvertisedFormats where
  schemas : Registry String

namespace AdvertisedFormats

def empty : AdvertisedFormats := ⟨.empty⟩

instance : Inhabited AdvertisedFormats := ⟨empty⟩

def insert (f : AdvertisedFormats) (metadataPrefix schema : String) : AdvertisedFormats :=
  ⟨f.schemas.insert metadataPrefix schema⟩

/-- Formats given as pairs of a prefix and a schema. -/
def ofList (formats : List (String × String)) : AdvertisedFormats := ⟨.ofList formats⟩

/-- The pairs of a prefix and a schema. -/
def toList (f : AdvertisedFormats) : List (String × String) := f.schemas.entries

def schema? (f : AdvertisedFormats) (metadataPrefix : String) : Option String :=
  f.schemas.get? metadataPrefix

def size (f : AdvertisedFormats) : Nat := f.schemas.size

def isEmpty (f : AdvertisedFormats) : Bool := f.schemas.isEmpty

/-- The prefixes whose schema the catalog supports. -/
def usablePrefixes (f : AdvertisedFormats) (catalog : Catalog) : List String :=
  (f.toList.filter fun format => catalog.supports format.2).map (·.1)

/-- The formats as an object with the prefixes for keys. -/
def toJson (f : AdvertisedFormats) : Json.Value :=
  .ofFields [("formats", .ofFields (f.toList.map fun format => (format.1, .ofString format.2)))]

end AdvertisedFormats

end MetadataHarvest
