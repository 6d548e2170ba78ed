import MetadataHarvest.Proofs.Harvester.Delivery
import MetadataHarvest.Proofs.Harvester.Setting
import MetadataHarvest.Proofs.Protocol.Request
import MetadataHarvest.Proofs.RecordReader.Reading

/-!
# What setting parameters leads to

However parameters were set, a harvester with a transformer knows where its records begin,
and it asks there for the records that the transformer is for. A harvest in such a state can
fail at a page or at a sink, but never for the configuration.
-/

namespace MetadataHarvest

open Protocol

namespace Harvester

/-- The harvesters that setting parameters leads to, with the requests made so far. Other
requests may be made in between. -/
inductive Reachable (catalog : Catalog) (r : Repository) : Harvester → List String → Prop
  | initial (before : List String) : Reachable catalog r (initial catalog) before
  | ofParameters {p : Parameters} {before after : List String} {h : Harvester}
      (made : (ofParameters catalog r p).run before = (.ok h, after)) :
      Reachable catalog r h after
  | setParameter {h : Harvester} {before : List String} (reachable : Reachable catalog r h before)
      (key : ParameterKey) (value : String) :
      Reachable catalog r ((h.setParameter r key value).run before).1.2
        ((h.setParameter r key value).run before).2
  | request {h : Harvester} {before : List String} (reachable : Reachable catalog r h before)
      (more : List String) : Reachable catalog r h (before ++ more)

variable {catalog : Catalog} {r : Repository} {h : Harvester} {requests : List String}

/-- In whatever order parameters are set, they stay in step with the negotiation. -/
theorem Reachable.inStep (reachable : Reachable catalog r h requests) :
    InStep catalog r h requests := by
  induction reachable with
  | initial before => exact inStep_initial catalog r before
  | @ofParameters p before after h made =>
      exact InStep.setAll (inStep_initial catalog r before) made
  | setParameter _ key value ih => exact ih.of_outcome (outcome_setParameter _ r key value _)
  | request _ more ih => exact ih.request more

/-- With a transformer and a beginning a harvest is one of pages. -/
theorem harvest_of_records {t : Transformer} (ht : h.negotiation.transformer = some t)
    {reader : RecordReader} (hrecords : h.records = .ok reader) (r' : Repository) (sink : Sink)
    (limit : Nat) :
    h.harvest r' sink limit = harvestPages r' t sink limit reader .empty [] := by
  simp only [harvest, Negotiation.current, ht, hrecords]

/-- With an address and a prefix the list of records has a beginning. -/
theorem records_of_parameters {host name : String} (hhost : h.parameters.hostUrl = some host)
    (hname : h.parameters.metadataPrefix = some name) (hhost' : Text.nonBlank? host = some host)
    (hname' : Text.nonBlank? name = some name) :
    let url := host ++ "?" ++ pairsQuery (listPairs name h.parameters.since h.parameters.upTo)
    h.listRecordsUrl = .ok url ∧ h.records = .ok (RecordReader.beginning host url) := by
  have hurl := listRecordsUrl_eq hhost' hname' h.parameters.since h.parameters.upTo
  constructor
  · rw [listRecordsUrl, hhost, hname, Option.getD_some, Option.getD_some, hurl]
  · rw [records, hhost, hname, Option.getD_some, Option.getD_some,
      RecordReader.start_of_listRecordsUrl hurl, Text.trimmed_of_nonBlank? hhost']

/-- Parameters and negotiation never drift apart. They name the same prefix and the same
address, and every value is one that may be set. A value that is accepted is the value of its
parameter and changes no other, and one that is refused changes nothing and requests nothing. A
bound transformer is the one which that prefix binds among the formats that were advertised at
that address when it was set; the list of records begins at this address, with a query that asks
for this prefix and the bounds, and no harvest fails for the configuration. -/
theorem reachable_inStep (reachable : Reachable catalog r h requests) :
    h.parameters.metadataPrefix = h.negotiation.metadataPrefix ∧
      h.parameters.hostUrl.getD "" = h.negotiation.hostUrl.getD "" ∧
      (∀ key value, h.parameters.get? key = some value →
        Text.trimmed value = value ∧ value ≠ "" ∧
          (key.isAddress = true → ∃ address, Url.Address.read value = .ok address)) ∧
      (∀ key value r' before, let result := (h.setParameter r' key value).run before
        (result.1.1 = .ok () →
          result.1.2.parameters = h.parameters.put (Text.nonBlank? value) key) ∧
        ∀ cause, result.1.1 = .error cause → result = ((.error cause, h), before)) ∧
      ∀ t, h.negotiation.transformer = some t →
        ∃ host name asked query,
          let url := host ++ "?" ++ query
          h.negotiation.hostUrl = some host ∧ h.negotiation.metadataPrefix = some name ∧
          asked ++ Repository.formatRequests host <+: requests ∧
          bindTransformer catalog ((r.formats host).run asked).1 (some name) = .ok t ∧
          AsksFor query (("verb", "ListRecords") :: (given "from" h.parameters.since ++
            given "until" h.parameters.upTo ++ [("metadataPrefix", name)])) ∧
          h.listRecordsUrl = .ok url ∧ h.records = .ok (RecordReader.beginning host url) ∧
          ∀ r' sink cause,
            (∀ accepted document, sink accepted document ≠ .error (.configuration cause)) →
              ∀ limit before, ((h.harvest r' sink limit).run before).1.1 ≠
                .error (.failed (.configuration cause)) := by
  have hs := reachable.inStep
  refine ⟨hs.metadataPrefix, hs.hostUrl, fun key value hget => hs.kept.isTrimmed key hget,
    fun key value r' before => ?_, fun t ht => ?_⟩
  · have outcome := outcome_setParameter h r' key value before
    exact ⟨outcome.of_ok, fun cause => outcome.of_error⟩
  obtain ⟨host, name, asked, hhost, hhost', hname, hname', hblank, hblank', hasked, hbind⟩ :=
    hs.bound ht
  obtain ⟨hurl, hrecords⟩ := records_of_parameters hhost hname hblank hblank'
  refine ⟨host, name, asked, _, hhost', hname', hasked, hbind, pairsQuery_asksFor _, hurl, hrecords,
    ?_⟩
  intro r' sink cause hsink limit before
  rw [harvest_of_records ht hrecords]
  exact harvestPages_ne_error (fun reader before =>
    reader.readPage_ne_configuration r' before cause) hsink _ _ _ before

/-- A catalog for the only format of the repository `Repository.sample`. -/
def sampleCatalog : Catalog := Catalog.empty.register "s" .dublinCore

/-- What making a harvester comes to, seen in some of its parts. -/
theorem exists_reachable {p : Parameters} {transformer : Option Transformer}
    {host : Option String} {url : Except ConfigurationError String}
    (hmade : ((ofParameters catalog r p).run []).1.map (fun h =>
        (h.negotiation.transformer, h.parameters.hostUrl, h.listRecordsUrl)) =
      .ok (transformer, host, url)) :
    ∃ h requests, Reachable catalog r h requests ∧ h.negotiation.transformer = transformer ∧
      h.parameters.hostUrl = host ∧ h.listRecordsUrl = url := by
  cases hrun : (ofParameters catalog r p).run [] with
  | mk made after =>
      rw [hrun] at hmade
      cases made with
      | error cause => cases hmade
      | ok h =>
          obtain ⟨htransformer, hparameters⟩ := Prod.mk.inj (Except.ok.inj hmade)
          obtain ⟨hhost, hurl⟩ := Prod.mk.inj hparameters
          exact ⟨h, after, .ofParameters hrun, htransformer, hhost, hurl⟩

theorem reachable_sample :
    ∃ h requests, Reachable sampleCatalog Repository.sample h requests ∧
      h.negotiation.transformer = some .dublinCore ∧ h.parameters.hostUrl = some "a:" ∧
      h.listRecordsUrl = .ok "a:?verb=ListRecords&metadataPrefix=p" := by
  have hmade : ((ofParameters sampleCatalog Repository.sample
      { hostUrl := some "a:", metadataPrefix := some "p" }).run []).1.map (fun h =>
        (h.negotiation.transformer, h.parameters.hostUrl, h.listRecordsUrl)) =
      .ok (some .dublinCore, some "a:", .ok "a:?verb=ListRecords&metadataPrefix=p") := by
    decide +kernel
  exact exists_reachable hmade

theorem reachable_inStep_sample :
    ∃ h requests, Reachable sampleCatalog Repository.sample h requests ∧
      h.negotiation.transformer = some .dublinCore ∧
      h.parameters.metadataPrefix = h.negotiation.metadataPrefix ∧
      ∃ host name asked query, bindTransformer sampleCatalog
          ((Repository.sample.formats host).run asked).1 (some name) = .ok .dublinCore ∧
        h.listRecordsUrl = .ok (host ++ "?" ++ query) ∧
        AsksFor query (("verb", "ListRecords") :: (given "from" h.parameters.since ++
          given "until" h.parameters.upTo ++ [("metadataPrefix", name)])) := by
  obtain ⟨h, requests, hreachable, htransformer, -, -⟩ := reachable_sample
  obtain ⟨hname, -, -, -, hbound⟩ := reachable_inStep hreachable
  obtain ⟨host, name, asked, query, -, -, -, hbind, hasks, hurl, -, -⟩ := hbound _ htransformer
  exact ⟨h, requests, hreachable, htransformer, hname, host, name, asked, query, hbind, hurl,
    hasks⟩

end Harvester

end MetadataHarvest
