import MetadataHarvest.Error
import MetadataHarvest.Text.Blank
import MetadataHarvest.Url.Form

/-!
# Requests

A request is a verb with its arguments, sent to the address of a repository as a form
encoded query. It needs an address that is not blank, and a list of records also a prefix
that is not blank.
-/

namespace MetadataHarvest.Protocol

inductive Request where
  | listRecords (metadataPrefix : String) (since upTo : Option String)
  /-- The continuation of a list of records. -/
  | resumption (token : String)
  | listMetadataFormats
  | identify
  deriving DecidableEq

namespace Request

def verb : Request → String
  | listRecords .. | resumption _ => "ListRecords"
  | listMetadataFormats => "ListMetadataFormats"
  | identify => "Identify"

/-- An argument that is left out when its value is missing or empty. -/
def bound (name : String) (value : Option String) : List (String × String) :=
  ((value.filter (!·.isEmpty)).map fun v => (name, v)).toList

def arguments : Request → List (String × String)
  | listRecords metadataPrefix since upTo =>
    bound "from" since ++ bound "until" upTo ++ [("metadataPrefix", metadataPrefix)]
  | resumption token => [("resumptionToken", token)]
  | listMetadataFormats | identify => []

/-- The address of the request at a repository. -/
def url (host : String) (r : Request) : String :=
  host ++ "?" ++ String.ofList (Url.Form.encodePairs (("verb", r.verb) :: r.arguments))

end Request

/-- The address of a repository without outer blanks. -/
def host (address : String) : Except ConfigurationError String :=
  match Text.nonBlank? address with
  | none => .error .missingHostUrl
  | some host => .ok host

/-- The address of a request that needs nothing but a repository. -/
def requestUrl (address : String) (r : Request) : Except ConfigurationError String :=
  (host address).map fun h => r.url h

/-- The address at which a list of records begins. -/
def listRecordsUrl (address metadataPrefix : String) (since upTo : Option String) :
    Except ConfigurationError String := do
  let h ← host address
  match Text.nonBlank? metadataPrefix with
  | none => throw (.emptyPrefix [])
  | some name => return (Request.listRecords name since upTo).url h

end MetadataHarvest.Protocol
