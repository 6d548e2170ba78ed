import MetadataHarvest.Format.Binding
import MetadataHarvest.Repository.Description

/-!
# Negotiating a format

Between a repository's address and a prefix, the two of which may change at any time, a
transformer is bound whenever the prefix binds one against the formats advertised at the
address. A prefix that binds none is refused and changes nothing; an address is always
taken.
-/

namespace MetadataHarvest

structure Negotiation where
  hostUrl : Option String
  metadataPrefix : Option String
  formats : AdvertisedFormats
  transformer : Option Transformer

namespace Negotiation

def initial : Negotiation := ⟨none, none, .empty, none⟩

instance : Inhabited Negotiation := ⟨initial⟩

/-- The state with other formats, advertised at another address. -/
def moveTo (n : Negotiation) (catalog : Catalog) (hostUrl : String)
    (formats : AdvertisedFormats) : Negotiation :=
  { n with
    hostUrl := some hostUrl
    formats
    transformer := (bindTransformer catalog formats n.metadataPrefix).toOption }

/-- Takes another address, and tells what the prefix binds there. -/
def setHost (n : Negotiation) (catalog : Catalog) (r : Repository) (hostUrl : String) :
    Session (Except ConfigurationError Transformer × Negotiation) := do
  let formats ← r.formats hostUrl
  return (bindTransformer catalog formats n.metadataPrefix, n.moveTo catalog hostUrl formats)

/-- Takes another prefix, when it binds a transformer. -/
def setPrefix (n : Negotiation) (catalog : Catalog) (metadataPrefix : String) :
    Except ConfigurationError (Transformer × Negotiation) := do
  let transformer ← bindTransformer catalog n.formats (some metadataPrefix)
  return (transformer, { n with
    metadataPrefix := some (Text.trimmed metadataPrefix)
    transformer := some transformer })

/-- The transformer that is bound. -/
def current (n : Negotiation) : Except ConfigurationError Transformer :=
  match n.transformer with
  | none => .error .noTransformerBound
  | some transformer => .ok transformer

/-- The prefixes that bind a transformer. -/
def allowed (n : Negotiation) (catalog : Catalog) : List String :=
  n.formats.usablePrefixes catalog

end Negotiation

end MetadataHarvest
