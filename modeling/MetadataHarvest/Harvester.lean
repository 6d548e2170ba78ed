import MetadataHarvest.Negotiation
import MetadataHarvest.Parameters.Basic
import MetadataHarvest.RecordReader

/-!
# Harvesting

A harvester keeps parameters and a negotiation in step: a prefix is a parameter only if it
binds a transformer, and each change of the address is negotiated anew. A harvest turns the
records of a repository into documents and hands them to a sink, which may refuse one and
thereby end the harvest.
-/

namespace MetadataHarvest

structure Harvester where
  catalog : Catalog
  parameters : Parameters
  negotiation : Negotiation

/-- What takes documents: after those that it has accepted it accepts one more or fails. -/
abbrev Sink := List Document → Document → Except HarvestError Unit

/-- The counts of a harvest. -/
structure Summary where
  records : Nat
  documents : Nat
  skipped : Nat
  deriving DecidableEq

namespace Summary

def empty : Summary := ⟨0, 0, 0⟩

/-- The counts after a page whose records became these documents or were skipped. -/
def addPage (s : Summary) (page : List (Option Document)) : Summary where
  records := s.records + page.length
  documents := s.documents + page.countP (·.isSome)
  skipped := s.skipped + page.countP (·.isNone)

end Summary

/-- Hands documents to a sink that has accepted some; the result holds all that it has
accepted then, and the failure if there was one. -/
def Sink.deliver (sink : Sink) (accepted : List Document) :
    List (Option Document) → Except HarvestError Unit × List Document
  | [] => (.ok (), accepted)
  | none :: page => sink.deliver accepted page
  | some document :: page =>
    match sink accepted document with
    | .error e => (.error e, accepted)
    | .ok _ => sink.deliver (accepted ++ [document]) page

namespace Harvester

/-- A harvester without parameters. -/
def initial (catalog : Catalog) : Harvester := ⟨catalog, {}, .initial⟩

/-- Sets a parameter that has nothing to do with the negotiation. -/
def setPlain (h : Harvester) (key : ParameterKey) (value : String) :
    Except ConfigurationError Unit × Harvester :=
  match h.parameters.set key value with
  | .error cause => (.error cause, h)
  | .ok (parameters, _) => (.ok (), { h with parameters })

/-- Sets the prefix, when it binds a transformer. -/
def setPrefix (h : Harvester) (value : String) : Except ConfigurationError Unit × Harvester :=
  match h.negotiation.setPrefix h.catalog (Text.trimmed value) with
  | .error cause => (.error cause, h)
  | .ok (_, negotiation) =>
    { h with negotiation }.setPlain .metadataPrefix value

/-- Sets the address, and negotiates anew when that changes it. -/
def setHost (h : Harvester) (r : Repository) (value : String) :
    Session (Except ConfigurationError Unit × Harvester) :=
  match h.parameters.set .hostUrl value with
  | .error cause => return (.error cause, h)
  | .ok (parameters, false) => return (.ok (), { h with parameters })
  | .ok (parameters, true) => do
    let (_, negotiation) ←
      h.negotiation.setHost h.catalog r (parameters.hostUrl.getD "")
    return (.ok (), { h with parameters, negotiation })

/-- Sets a parameter. -/
def setParameter (h : Harvester) (r : Repository) (key : ParameterKey) (value : String) :
    Session (Except ConfigurationError Unit × Harvester) :=
  match key with
  | .metadataPrefix => return h.setPrefix value
  | .hostUrl => h.setHost r value
  | key => return h.setPlain key value

/-- The order in which parameters are set together: the prefix needs the address. -/
def settingOrder : List ParameterKey :=
  [.from, .until, .logoUrl, .hostUrl, .metadataPrefix]

/-- Sets the parameters named by `keys` that have a value. -/
def setAll (r : Repository) (parameters : Parameters) :
    List ParameterKey → Harvester → Session (Except ConfigurationError Harvester)
  | [], h => return .ok h
  | key :: keys, h =>
    match parameters.get? key with
    | none => setAll r parameters keys h
    | some value => do
      match ← h.setParameter r key value with
      | (.error cause, _) => return .error cause
      | (.ok _, h) => setAll r parameters keys h

/-- A harvester with these parameters. -/
def ofParameters (catalog : Catalog) (r : Repository) (parameters : Parameters) :
    Session (Except ConfigurationError Harvester) :=
  setAll r parameters settingOrder (initial catalog)

/-- The address at which the harvester's list of records begins. -/
def listRecordsUrl (h : Harvester) : Except ConfigurationError String :=
  Protocol.listRecordsUrl (h.parameters.hostUrl.getD "") (h.parameters.metadataPrefix.getD "")
    h.parameters.since h.parameters.upTo

/-- A reader at the beginning of the harvester's list of records. -/
def records (h : Harvester) : Except ConfigurationError RecordReader :=
  RecordReader.start (h.parameters.hostUrl.getD "") (h.parameters.metadataPrefix.getD "")
    h.parameters.since h.parameters.upTo

/-- The name of the repository. -/
def repositoryName (h : Harvester) (r : Repository) : Session String :=
  r.name (h.parameters.hostUrl.getD "")

/-- Harvests the pages that a reader still gives, at most `limit` of them. -/
def harvestPages (r : Repository) (transformer : Transformer) (sink : Sink) (limit : Nat)
    (reader : RecordReader) (summary : Summary) (accepted : List Document) :
    Session (Except Interruption Summary × List Document) :=
  match limit with
  | 0 => return (.error .outOfPages, accepted)
  | limit + 1 => do
    match ← reader.readPage r with
    | (.error e, _) => return (.error (.failed e), accepted)
    | (.ok none, _) => return (.ok summary, accepted)
    | (.ok (some page), reader) =>
      let documents := page.map transformer.transform
      match sink.deliver accepted documents with
      | (.error e, accepted) => return (.error (.failed e), accepted)
      | (.ok _, accepted) =>
        harvestPages r transformer sink limit reader (summary.addPage documents) accepted

/-- Harvests all records of the repository, up to `limit` pages; the result also holds the
documents that the sink accepted. -/
def harvest (h : Harvester) (r : Repository) (sink : Sink) (limit : Nat) :
    Session (Except Interruption Summary × List Document) :=
  match h.negotiation.current, h.records with
  | .error cause, _ => return (.error (.failed (.configuration cause)), [])
  | .ok _, .error cause => return (.error (.failed (.configuration cause)), [])
  | .ok transformer, .ok reader =>
    harvestPages r transformer sink limit reader .empty []

end Harvester

end MetadataHarvest
