import MetadataHarvest.Protocol.FormatList
import MetadataHarvest.Protocol.Request
import MetadataHarvest.Repository.Basic
import MetadataHarvest.Repository.HostName

/-!
# What a repository says about itself

Its formats and its name, each by one request, which is not made when the address is blank.
-/

namespace MetadataHarvest.Repository

open Protocol

/-- The answer to a request at an address. -/
def ask (r : Repository) (address : String) (request : Request) :
    Session (Except HarvestError String) :=
  match requestUrl address request with
  | .error cause => return .error (.configuration cause)
  | .ok url => r.fetch url

/-- The formats that the repository advertises. -/
def advertised (r : Repository) (address : String) :
    Session (Except HarvestError AdvertisedFormats) := do
  return (← r.ask address .listMetadataFormats).bind advertisedFormats

/-- The formats that the repository advertises, or none when it does not say. -/
def formats (r : Repository) (address : String) : Session AdvertisedFormats := do
  return (← r.advertised address).toOption.getD .empty

/-- The name that a repository gives itself in an answer, if it is not blank. -/
def ownName? (body : String) : Option String :=
  ((Envelope.read body).toOption.bind (·.name)).bind Text.nonBlank?

/-- The name that the repository gives itself, or the name of its host. -/
def name (r : Repository) (address : String) : Session String := do
  return ((← r.ask address .identify).toOption.bind ownName?).getD (HostName.ofAddress address)

end MetadataHarvest.Repository
