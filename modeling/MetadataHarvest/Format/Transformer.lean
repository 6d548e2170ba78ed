import MetadataHarvest.Format.Standard
import MetadataHarvest.Record.DublinCore
import MetadataHarvest.Record.Iso19139

/-!
# Record transformers

A transformer turns the records of one standard into documents. Its policy says what
becomes of a record that was withdrawn.

## Implementation notes

The transformers are those of the two standards, so that a record under any of them can be spoken
of by cases. A transformer for a further standard is a further case here. Negotiation only passes
transformers on: nothing in it depends on which ones there are.
-/

namespace MetadataHarvest

/-- What becomes of a withdrawn record. -/
inductive DeletedRecordPolicy where
  /-- It becomes a document with little more than the mark. -/
  | tombstone
  /-- It becomes no document. -/
  | skip
  deriving DecidableEq

inductive Transformer where
  | dublinCore
  /-- Documents carry this identifier of the repository. -/
  | iso19139 (repositoryIdentifier : String)
  deriving DecidableEq

namespace Transformer

def standard : Transformer → MetadataStandard
  | dublinCore => .dublinCore
  | iso19139 _ => .iso19139

/-- The schema of the records that the transformer understands. -/
def schema (t : Transformer) : String := t.standard.schema

def policy : Transformer → DeletedRecordPolicy
  | dublinCore => .tombstone
  | iso19139 _ => .skip

/-- The document that a record becomes, unless it is skipped. -/
def transform (record : Markup.Element) : Transformer → Option Document
  | dublinCore => some (DublinCore.document record)
  | iso19139 repositoryIdentifier => Iso19139.document? repositoryIdentifier record

end Transformer

end MetadataHarvest
