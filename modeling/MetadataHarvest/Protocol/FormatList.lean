import MetadataHarvest.Format.Advertised
import MetadataHarvest.Protocol.Envelope

/-!
# Lists of formats

The formats that a repository advertises in its answer. A format that lacks a prefix or a
schema is left out.
-/

namespace MetadataHarvest.Protocol

/-- A prefix and a schema without outer blanks, when neither is blank. -/
def OfferedFormat.pair? (f : OfferedFormat) : Option (String × String) := do
  return (← Text.nonBlank? f.metadataPrefix, ← Text.nonBlank? f.schema)

/-- The formats that a response advertises. -/
def advertisedFormats (body : String) : Except HarvestError AdvertisedFormats := do
  match (← Envelope.read body).formats with
  | none => throw (.missingElement "ListMetadataFormats")
  | some formats => return .ofList (formats.filterMap OfferedFormat.pair?)

end MetadataHarvest.Protocol
