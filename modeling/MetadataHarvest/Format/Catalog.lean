import MetadataHarvest.Format.Transformer
import MetadataHarvest.Registry

/-!
# The catalog of formats

Which transformer a schema gets. A schema that is registered again gets the new transformer. What
is registered is one of the transformers that there are, under any schema.
-/

namespace MetadataHarvest

structure Catalog where
  transformers : Registry Transformer

namespace Catalog

def empty : Catalog := ⟨.empty⟩

def register (c : Catalog) (schema : String) (t : Transformer) : Catalog :=
  ⟨c.transformers.insert schema t⟩

/-- The catalog of all standards, for the repository with this identifier. -/
def ofRepository (repositoryIdentifier : String) : Catalog :=
  (empty.register MetadataStandard.dublinCore.schema .dublinCore).register
    MetadataStandard.iso19139.schema (.iso19139 repositoryIdentifier)

/-- The catalog of all standards when no repository identifier is configured. -/
def standard : Catalog := ofRepository Iso19139.defaultRepositoryIdentifier

instance : Inhabited Catalog := ⟨standard⟩

def transformer? (c : Catalog) (schema : String) : Option Transformer :=
  c.transformers.get? schema

def supports (c : Catalog) (schema : String) : Bool := c.transformers.contains schema

/-- The schemas, in the order in which they were first registered. -/
def schemas (c : Catalog) : List String := c.transformers.keys

end Catalog

end MetadataHarvest
