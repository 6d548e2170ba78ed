import MetadataHarvest.Markup.Document
import MetadataHarvest.Parameters.Key
import MetadataHarvest.Url.Host

/-!
# What can go wrong

The causes for which a harvest cannot be configured or carried out, and what is said of
each. Where a prefix was wrong, the ones that would have been accepted are part of the
cause.
-/

namespace MetadataHarvest

/-- Why parameters do not make a harvest possible. -/
inductive ConfigurationError where
  | emptyPrefix (allowed : List String)
  | noRepositoryFormats
  | prefixNotAdvertised (metadataPrefix : String) (allowed : List String)
  | schemaNotSupported (metadataPrefix schema : String) (allowed : List String)
  | missingHostUrl
  | noTransformerBound
  | unknownParameter (key : String)
  | invalidAddress (key : ParameterKey) (value : String) (fault : Url.Fault)
  deriving DecidableEq

namespace ConfigurationError

/-- The prefixes that would have been accepted. -/
def allowed : ConfigurationError → List String
  | emptyPrefix allowed | prefixNotAdvertised _ allowed | schemaNotSupported _ _ allowed =>
    allowed
  | _ => []

/-- What is said of the prefixes that would have been accepted. -/
def allowedSuffix (allowed : List String) : String :=
  if allowed.isEmpty then "" else " Allowed values: " ++ ", ".intercalate allowed

/-- What is said of a value that a parameter cannot have. -/
def invalidValue (key value reason : String) : String :=
  s!"Invalid value '{value}' for parameter '{key}': {reason}"

def message : ConfigurationError → String
  | emptyPrefix allowed => "The metadataPrefix parameter must be set!" ++ allowedSuffix allowed
  | noRepositoryFormats =>
    "No metadata formats are known: the hostUrl parameter must point to a reachable OAI-PMH "
      ++ "repository!"
  | prefixNotAdvertised metadataPrefix allowed =>
    s!"The repository does not support the metadataPrefix '{metadataPrefix}'!"
      ++ allowedSuffix allowed
  | schemaNotSupported metadataPrefix schema allowed =>
    s!"The harvester does not support the metadataPrefix '{metadataPrefix}' (schema {schema})!"
      ++ allowedSuffix allowed
  | missingHostUrl => "The hostUrl parameter must be set!"
  | noTransformerBound =>
    "No record transformer is bound: set a valid hostUrl and metadataPrefix first"
  | unknownParameter key => invalidValue key "" "unknown parameter"
  | invalidAddress key value fault => invalidValue key.name value fault.message

end ConfigurationError

/-- Why a harvest, or a step of it, failed. -/
inductive HarvestError where
  | configuration (cause : ConfigurationError)
  /-- The repository gave no answer. -/
  | fetch (url reason : String)
  /-- An answer is no document. -/
  | markup (fault : Markup.Fault)
  /-- An answer lacks the element that it must have. -/
  | missingElement (name : String)
  /-- The repository reported an error. -/
  | protocol (code message : String)
  /-- The text of a settings file cannot be read. -/
  | settings
  /-- A file cannot be read or written. -/
  | file
  deriving DecidableEq

namespace HarvestError

def message : HarvestError → String
  | configuration cause => cause.message
  | fetch url reason => s!"Fetch error for {url}: {reason}"
  | markup .malformed => "XML error: malformed document"
  | markup (.unclosed name) => s!"XML error: Unclosed element <{name}>"
  | markup .noRoot => "XML error: Document has no root element"
  | missingElement name => s!"XML error: Response has no {name} element"
  | protocol code message => s!"OAI-PMH error '{code}': {message}"
  | settings => "Configuration file error"
  | file => "IO error"

end HarvestError

end MetadataHarvest
