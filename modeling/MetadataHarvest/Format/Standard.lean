/-!
# Metadata standards

The standards whose records can become documents. A repository names a standard by its
schema; the prefix under which it offers the standard is its own choice.
-/

namespace MetadataHarvest

inductive MetadataStandard where
  | dublinCore
  | iso19139
  deriving DecidableEq

namespace MetadataStandard

def all : List MetadataStandard := [dublinCore, iso19139]

def name : MetadataStandard → String
  | dublinCore => "Dublin Core"
  | iso19139 => "ISO 19139"

/-- The namespace of the standard's records. -/
def schema : MetadataStandard → String
  | dublinCore => "http://www.openarchives.org/OAI/2.0/oai_dc/"
  | iso19139 => "http://www.isotc211.org/2005/gmd"

/-- The prefix that repositories commonly use for the standard. -/
def conventionalPrefix : MetadataStandard → String
  | dublinCore => "oai_dc"
  | iso19139 => "iso19139"

def ofSchema? (schema : String) : Option MetadataStandard := all.find? (·.schema = schema)

@[simp] theorem ofSchema?_schema (s : MetadataStandard) : ofSchema? s.schema = some s := by
  cases s <;> decide

end MetadataStandard

end MetadataHarvest
