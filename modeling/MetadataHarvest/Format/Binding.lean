import MetadataHarvest.Error
import MetadataHarvest.Format.Advertised

/-!
# Binding a transformer

A prefix binds a transformer when the repository advertises it with a schema that the
catalog supports. Otherwise the first obstacle is reported, with the prefixes that would
bind one.
-/

namespace MetadataHarvest

/-- The transformer that a prefix binds. -/
def bindTransformer (catalog : Catalog) (formats : AdvertisedFormats)
    (metadataPrefix : Option String) : Except ConfigurationError Transformer :=
  let allowed := formats.usablePrefixes catalog
  match metadataPrefix.bind Text.nonBlank? with
  | none => .error (.emptyPrefix allowed)
  | some name =>
    if formats.isEmpty then .error .noRepositoryFormats
    else match formats.schema? name with
      | none => .error (.prefixNotAdvertised name allowed)
      | some schema =>
        match catalog.transformer? schema with
        | none => .error (.schemaNotSupported name schema allowed)
        | some transformer => .ok transformer

end MetadataHarvest
