import MetadataHarvest.Proofs.Harvester.Harvest
import MetadataHarvest.Proofs.RecordReader.Prefix

/-!
# Harvests with other prefixes

Page by page a harvest makes the same documents of records with other prefixes, counts them the
same, and goes on at the same address. So a whole harvest comes to the same with every prefix
that a repository may use for its envelopes.
-/

namespace MetadataHarvest.Harvester

open Markup

theorem map_transform_of_reprefixed (t : Transformer) {records records' : List Element}
    (h : List.Forall₂ Record.Reprefixed records records') :
    records'.map t.transform = records.map t.transform := by
  induction h with
  | nil => rfl
  | cons hrecord _ ih => rw [List.map_cons, List.map_cons, ih, t.transform_eq_of_reprefixed hrecord]

/-- The pages that are left give the same, with what was accepted before. -/
theorem run_harvestPages_of_reprefixed {r r' : Repository} (h : r.Reprefixed r') (t : Transformer)
    (sink : Sink) (limit : Nat) {reader : RecordReader} (hbuffer : reader.buffer = [])
    (summary : Summary) (accepted : List Document) (before : List String) :
    (harvestPages r' t sink limit reader summary accepted).run before =
      (harvestPages r t sink limit reader summary accepted).run before := by
  induction limit generalizing reader summary accepted before with
  | zero => rfl
  | succ limit ih =>
      obtain ⟨outcome, outcome', after, requests, hread, hread', hafter, halike⟩ :=
        RecordReader.run_readPage_alike h hbuffer before
      rw [run_harvestPages_succ, run_harvestPages_succ, hread, hread']
      cases halike with
      | failed e => rfl
      | ended => rfl
      | found hrecords =>
          dsimp only
          rw [map_transform_of_reprefixed t hrecords]
          split
          · rfl
          · exact ih hafter _ _ _

/-- A harvest does not depend on the prefixes in the answers of its repository. -/
theorem run_harvest_of_reprefixed {r r' : Repository} (h : r.Reprefixed r') (harvester : Harvester)
    (sink : Sink) (limit : Nat) (before : List String) :
    (harvester.harvest r' sink limit).run before =
      (harvester.harvest r sink limit).run before := by
  unfold harvest
  cases harvester.negotiation.current with
  | error cause => rfl
  | ok t =>
      cases hrecords : harvester.records with
      | error cause => rfl
      | ok reader =>
          obtain ⟨url, -, rfl⟩ := RecordReader.exists_of_start hrecords
          exact run_harvestPages_of_reprefixed h t sink limit rfl _ _ before

/-- The prefixes of the envelopes do not matter. A record becomes the same document when the
record, its children and the children of its header get others. A reader takes the same failure
from a response, or the same records up to what may differ in records themselves, and it goes on
at the same address with the same size of the list, when the root, its children and the children
of the list get others. And a harvest comes to the same with both in all answers. Declarations of
namespaces may change along with the prefixes. -/
theorem unchanged_of_reprefixed :
    (∀ (t : Transformer) (record record' : Element), Record.Reprefixed record record' →
      t.transform record' = t.transform record) ∧
    (∀ (R : Element → Element → Prop) (root root' : Element) (body body' : String)
      (reader : RecordReader), Protocol.Reprefixed R root root' →
      Element.parse body = .ok root → Element.parse body' = .ok root' →
      Alike (List.Forall₂ R) (reader.receive body).1 (reader.receive body').1 ∧
        (reader.receive body').2 = (reader.receive body).2) ∧
    ∀ (h : Harvester) (r r' : Repository) (sink : Sink) (limit : Nat) (before : List String),
      r.Reprefixed r' →
        (h.harvest r' sink limit).run before = (h.harvest r sink limit).run before := by
  refine ⟨?_, ?_, ?_⟩
  · intro t record record' h
    exact t.transform_eq_of_reprefixed h
  · intro R root root' body body' reader h hbody hbody'
    exact RecordReader.receive_alike h hbody hbody' reader
  · intro h r r' sink limit before hr
    exact run_harvest_of_reprefixed hr h sink limit before

/-- A record that was withdrawn, with these characters before the names in its envelope. -/
def withdrawnRecord (before : String) : Element :=
  ⟨before ++ "record", [], .ofNodes [
    .element ⟨before ++ "header", [("status", "deleted")], .nil⟩]⟩

/-- A list of such a record alone, in a root with these attributes. -/
def withdrawnList (before : String) (attributes : List (String × String)) : Element :=
  ⟨before ++ "o", attributes, .ofNodes [
    .element ⟨before ++ "ListRecords", [], .ofNodes [.element (withdrawnRecord before)]⟩]⟩

theorem reprefixed_withdrawnRecord :
    Record.Reprefixed (withdrawnRecord "") (withdrawnRecord "oai:") := by
  refine ⟨by decide, by decide, .element (.of_named ?_ (by decide) (by decide)) .nil⟩
  exact ⟨by decide, by decide, .nil⟩

theorem reprefixed_withdrawnList :
    Protocol.Reprefixed Record.Reprefixed (withdrawnList "" [])
      (withdrawnList "oai:" [("xmlns:oai", "u")]) := by
  refine ⟨by decide, by decide, .element (.of_named ?_ (by decide) (by decide)) .nil⟩
  refine ⟨by decide, by decide, .element (.of_named ?_ (by decide) (by decide)) .nil⟩
  exact reprefixed_withdrawnRecord

/-- The same list from two repositories, of which the second one declares a prefix and uses it. -/
theorem unchanged_of_reprefixed_withdrawn :
    let body := "<o><ListRecords><record><header status=\"deleted\"/></record></ListRecords></o>"
    let body' := "<oai:o xmlns:oai=\"u\"><oai:ListRecords><oai:record>"
      ++ "<oai:header status=\"deleted\"/></oai:record></oai:ListRecords></oai:o>"
    let r : Repository := ⟨fun _ _ => .ok body⟩
    let r' : Repository := ⟨fun _ _ => .ok body'⟩
    Transformer.dublinCore.transform (withdrawnRecord "oai:") = some { deleted := true } ∧
      (∀ reader : RecordReader, (reader.receive body').2 = (reader.receive body).2) ∧
      ∃ h requests, Reachable sampleCatalog Repository.sample h requests ∧
        (h.harvest r' (fun _ _ => .ok ()) 2).run [] =
          (h.harvest r (fun _ _ => .ok ()) 2).run [] := by
  intro body body' r r'
  have hbody : Element.parse body = .ok (withdrawnList "" []) := by decide +kernel
  have hbody' : Element.parse body' = .ok (withdrawnList "oai:" [("xmlns:oai", "u")]) := by
    decide +kernel
  obtain ⟨htransform, hreceive, hharvest⟩ := unchanged_of_reprefixed
  refine ⟨?_, fun reader => ?_, ?_⟩
  · rw [htransform _ _ _ reprefixed_withdrawnRecord]
    decide +kernel
  · exact (hreceive _ _ _ _ _ reader reprefixed_withdrawnList hbody hbody').2
  · obtain ⟨h, requests, hreachable, -⟩ := reachable_sample
    refine ⟨h, requests, hreachable, hharvest h r r' _ 2 [] fun _ _ => ?_⟩
    exact .reprefixed hbody hbody' reprefixed_withdrawnList

end MetadataHarvest.Harvester
