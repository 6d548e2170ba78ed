import MetadataHarvest.Proofs.Harvester.Reachable

/-!
# A whole harvest

A harvest of a finite chain of pages hands over the documents of the chain's records in
order, whether the records are read page by page, as a harvest does, or one by one. It ends
with the chain, or with the page that fails, or with the first document that is refused; in
the last case no page after that of the document is requested.
-/

namespace MetadataHarvest

open Markup Protocol Repository

namespace Harvester

/-- The documents that the records of some pages become. -/
def documentsAt (r : Repository) (t : Transformer) (urls : List String) : List Document :=
  (urls.flatMap (r.recordsAt [])).filterMap t.transform

/-- The result of a harvest whose pages end like this. -/
def ending (failure : Option HarvestError) (summary : Summary) : Except Interruption Summary :=
  match failure with
  | none => .ok summary
  | some e => .error (.failed e)

variable {r : Repository} {t : Transformer} {sink : Sink} {urls : List String}

@[simp] theorem documentsAt_nil (r : Repository) (t : Transformer) : documentsAt r t [] = [] :=
  rfl

theorem documentsAt_cons (r : Repository) (t : Transformer) (url : String)
    (urls : List String) :
    documentsAt r t (url :: urls) =
      ((r.recordsAt [] url).map t.transform).filterMap id ++ documentsAt r t urls := by
  rw [documentsAt, List.flatMap_cons, List.filterMap_append, List.filterMap_map]
  rfl

/-- Where no page is read a harvest ends. -/
theorem run_harvestPages_last (stable : r.Stable) {reader : RecordReader} {url : String}
    (hbuffer : reader.buffer = []) (hurl : reader.nextUrl = some url)
    (hpage : r.page? [] url = none) (limit : Nat) (summary : Summary)
    (accepted : List Document) (before : List String) :
    (harvestPages r t sink (limit + 1) reader summary accepted).run before =
      ((ending (r.failureAt [] url) summary, accepted), before ++ [url]) := by
  rw [run_harvestPages_succ, stable.run_readPage hbuffer hurl]
  cases h : r.page [] url with
  | error e =>
      simp only [failureAt, h]
      rfl
  | ok page? =>
      obtain rfl : page? = none := (page?_of_ok h).symm.trans hpage
      simp only [failureAt, h]
      rfl

/-- After a page a harvest goes on with the next, when the documents were accepted. -/
theorem run_harvestPages_page (stable : r.Stable) {reader : RecordReader} {url : String}
    (hbuffer : reader.buffer = []) (hurl : reader.nextUrl = some url) {page : RecordPage}
    (hpage : r.page? [] url = some page) (limit : Nat) (summary : Summary)
    (accepted : List Document) (before : List String) :
    (harvestPages r t sink (limit + 1) reader summary accepted).run before =
      match sink.deliver accepted (page.records.map t.transform) with
      | (.error e, taken) => ((.error (.failed e), taken), before ++ [url])
      | (.ok _, taken) =>
        (harvestPages r t sink limit ((reader.turnAt r [] url).count page.records)
          (summary.addPage (page.records.map t.transform)) taken).run (before ++ [url]) := by
  rw [run_harvestPages_succ, stable.run_readPage hbuffer hurl, page_of_page? hpage,
    recordsAt_of_page? hpage]
  rfl

/-- A harvest whose documents are all accepted comes to the end of its pages. -/
theorem run_harvestPages_of_accepts (stable : r.Stable) :
    ∀ (limit : Nat) (reader : RecordReader) (summary : Summary) (accepted : List Document)
      (before : List String), r.Trail reader.host reader.nextUrl urls → reader.buffer = [] →
      urls.length < limit → sink.Accepts accepted (documentsAt r t urls) →
      (harvestPages r t sink limit reader summary accepted).run before =
        ((ending (urls.findSome? (r.failureAt []))
            (summary.addPage ((urls.flatMap (r.recordsAt [])).map t.transform)),
          accepted ++ documentsAt r t urls), before ++ urls) := by
  induction urls with
  | nil =>
      intro limit reader summary accepted before trail hbuffer hlimit _
      obtain ⟨limit, rfl⟩ := Nat.exists_eq_add_one.mpr hlimit
      rw [run_harvestPages_succ, RecordReader.run_readPage_none hbuffer trail.of_nil,
        documentsAt_nil, List.append_nil, List.append_nil]
      rfl
  | cons url urls ih =>
      intro limit reader summary accepted before trail hbuffer hlimit haccepts
      obtain ⟨limit, rfl⟩ := Nat.exists_eq_add_one.mpr (Nat.zero_lt_of_lt hlimit)
      obtain ⟨hurl, tail⟩ := trail.of_cons
      cases hpage : r.page? [] url with
      | none =>
          -- Where no page is read the chain ends, and nothing is left to hand over.
          have hrecords := recordsAt_of_page?_eq_none hpage
          rw [following_of_page?_eq_none hpage] at tail
          obtain rfl := tail.eq_nil
          rw [run_harvestPages_last stable hbuffer hurl hpage, documentsAt_cons, documentsAt_nil,
            List.flatMap_cons, hrecords, List.findSome?_cons]
          cases r.failureAt [] url with
          | none => simp [Summary.addPage]
          | some e => simp [ending]
      | some page =>
          have hrecords := recordsAt_of_page? hpage
          have hfailure : r.failureAt [] url = none := by
            simp only [failureAt, page_of_page? hpage]
          rw [documentsAt_cons, hrecords, Sink.accepts_append] at haccepts
          obtain ⟨htaken, hrest⟩ := haccepts
          have hlimit' : urls.length < limit := by
            rw [List.length_cons] at hlimit
            omega
          have hnext := ih limit ((reader.turnAt r [] url).count page.records)
            (summary.addPage (page.records.map t.transform)) _ (before ++ [url]) tail hbuffer
            hlimit' hrest
          rw [run_harvestPages_page stable hbuffer hurl hpage, Sink.deliver_of_accepts htaken]
          dsimp only
          rw [hnext, List.findSome?_cons, hfailure, documentsAt_cons, List.flatMap_cons, hrecords,
            List.map_append, Summary.addPage_append, ← List.append_assoc, ← List.append_cons]

/-- A harvest with a document that is refused ends with the page of that document. -/
theorem run_harvestPages_of_refuses (stable : r.Stable) {e : HarvestError} :
    ∀ (limit : Nat) (reader : RecordReader) (summary : Summary) (accepted first : List Document)
      (before : List String), r.Trail reader.host reader.nextUrl urls → reader.buffer = [] →
      urls.length < limit → sink.Refuses accepted (documentsAt r t urls) first e →
      ∃ done url rest, urls = done ++ url :: rest ∧
        (harvestPages r t sink limit reader summary accepted).run before =
          ((.error (.failed e), accepted ++ first), before ++ (done ++ [url])) ∧
        (documentsAt r t done).length ≤ first.length ∧
        first.length < (documentsAt r t (done ++ [url])).length := by
  induction urls with
  | nil =>
      rintro limit reader summary accepted first before trail hbuffer hlimit
        ⟨document, rest, hsplit, -, -⟩
      simp at hsplit
  | cons url urls ih =>
      intro limit reader summary accepted first before trail hbuffer hlimit hrefuses
      obtain ⟨limit, rfl⟩ := Nat.exists_eq_add_one.mpr (Nat.zero_lt_of_lt hlimit)
      obtain ⟨hurl, tail⟩ := trail.of_cons
      cases hpage : r.page? [] url with
      | none =>
          rw [following_of_page?_eq_none hpage] at tail
          obtain rfl := tail.eq_nil
          obtain ⟨document, rest, hsplit, -, -⟩ := hrefuses
          rw [documentsAt_cons, recordsAt_of_page?_eq_none hpage] at hsplit
          simp at hsplit
      | some page =>
          have hrecords := recordsAt_of_page? hpage
          have hrun :
              (harvestPages r t sink (limit + 1) reader summary accepted).run before = _ :=
            run_harvestPages_page stable hbuffer hurl hpage limit summary accepted before
          rw [documentsAt_cons, hrecords] at hrefuses
          -- The refused document is one of this page, or of a later one.
          rcases hrefuses.append with ⟨hhere, hlength⟩ | ⟨second, rfl, htaken, hlater⟩
          · refine ⟨[], url, urls, rfl, ?_, Nat.zero_le _, ?_⟩
            · rw [hrun, Sink.deliver_of_refuses hhere]
              rfl
            · rw [List.nil_append, documentsAt_cons, hrecords, documentsAt_nil, List.append_nil]
              exact hlength
          · have hlimit' : urls.length < limit := by
              rw [List.length_cons] at hlimit
              omega
            obtain ⟨done, last, rest, rfl, hnext, hle, hlt⟩ :=
              ih limit ((reader.turnAt r [] url).count page.records)
                (summary.addPage (page.records.map t.transform)) _ second (before ++ [url]) tail
                hbuffer hlimit' hlater
            refine ⟨url :: done, last, rest, rfl, ?_, ?_, ?_⟩
            · rw [hrun, Sink.deliver_of_accepts htaken]
              dsimp only
              rw [hnext, List.append_assoc, List.append_assoc]
              rfl
            · rw [documentsAt_cons, hrecords, List.length_append, List.length_append]
              omega
            · rw [List.cons_append, documentsAt_cons, hrecords, List.length_append,
                List.length_append]
              omega

/-- With a bound transformer a harvest of a finite chain of pages hands over the documents of
the records that reading them one by one gives, in order, without those that are skipped. When
the sink takes them all, the harvest ends as the chain does: with the counts, or with the
failure of its last page after the documents of all earlier ones. When the sink refuses one,
the harvest ends with that failure, exactly the documents before were taken, and the page of
the refused document is the last one that was requested. -/
theorem harvest_of_trail {catalog : Catalog} {r₀ r : Repository} {h : Harvester}
    {requests : List String} (reachable : Reachable catalog r₀ h requests) {t : Transformer}
    (bound : h.negotiation.transformer = some t) (stable : r.Stable) :
    ∃ url reader, h.listRecordsUrl = .ok url ∧ h.records = .ok reader ∧
      ∀ (urls : List String), r.Trail (h.parameters.hostUrl.getD "") (some url) urls →
        let records := urls.flatMap (r.recordsAt [])
        let documents := records.filterMap t.transform
        let skipped := records.countP fun record => (t.transform record).isNone
        let failure := urls.findSome? (r.failureAt [])
        records.length = documents.length + skipped ∧
        (∀ e, failure = some e → ∃ earlier last, urls = earlier ++ [last] ∧
          r.page [] last = .error e ∧ documents = documentsAt r t earlier) ∧
        (∀ limit before, records.length + urls.length < limit →
          ((reader.drain r limit).run before).1.1 =
            records.map .ok ++ failure.toList.map fun e => .error (.failed e)) ∧
        ∀ (sink : Sink) (limit : Nat) (before : List String), urls.length < limit →
          let outcome := (h.harvest r sink limit).run before
          (sink.Accepts [] documents ∨ ∃ first e, sink.Refuses [] documents first e) ∧
          (sink.Accepts [] documents → outcome =
            ((ending failure ⟨records.length, documents.length, skipped⟩, documents),
              before ++ urls)) ∧
          ∀ first e, sink.Refuses [] documents first e →
            ∃ done last rest, urls = done ++ last :: rest ∧
              outcome = ((.error (.failed e), first), before ++ (done ++ [last])) ∧
              (documentsAt r t done).length ≤ first.length ∧
              first.length < (documentsAt r t (done ++ [last])).length := by
  obtain ⟨host, name, -, hhost, -, hname, -, hblank, hblank', -, -⟩ :=
    reachable.inStep.bound bound
  obtain ⟨hurl, hrecords⟩ := records_of_parameters hhost hname hblank hblank'
  refine ⟨_, _, hurl, hrecords, fun urls trail => ?_⟩
  rw [hhost, Option.getD_some] at trail
  intro records documents skipped failure
  refine ⟨Summary.length_eq_documents_add_skipped records t, ?_, ?_, ?_⟩
  · intro e hfailure
    obtain ⟨earlier, last, hurls, hlast, hearlier⟩ := trail.failure_last hfailure
    refine ⟨earlier, last, hurls, hlast, ?_⟩
    rw [documentsAt, ← hearlier]
  · intro limit before hlimit
    obtain ⟨reader, hdrain⟩ := RecordReader.run_drain stable limit
      ⟨RecordReader.beginning host _, before, urls⟩ trail hlimit
    exact congrArg (·.1.1) hdrain
  · intro sink limit before hlimit outcome
    have hharvest : outcome = _ :=
      congrArg (·.run before) (harvest_of_records bound hrecords r sink limit)
    refine ⟨sink.accepts_or_refuses [] documents, fun haccepts => ?_, fun first e hrefuses => ?_⟩
    · rw [hharvest, run_harvestPages_of_accepts stable limit (RecordReader.beginning host _) _ _
        before trail rfl hlimit haccepts, Summary.empty_addPage_map]
      rfl
    · obtain ⟨done, last, rest, hurls, hrun, hle, hlt⟩ :=
        run_harvestPages_of_refuses stable limit (RecordReader.beginning host _) .empty [] first
          before trail rfl hlimit hrefuses
      refine ⟨done, last, rest, hurls, ?_, hle, hlt⟩
      rw [hharvest]
      exact hrun

/-- A sink that takes everything has the documents of both pages when the third one fails. -/
theorem harvest_of_trail_sample :
    ∃ h requests, Reachable sampleCatalog sample h requests ∧
      h.negotiation.transformer = some .dublinCore ∧ sample.Stable ∧
      (h.harvest sample (fun _ _ => .ok ()) 4).run [] =
        ((.error (.failed (.fetch "a:?verb=ListRecords&resumptionToken=y" "down")),
          documentsAt sample .dublinCore sampleUrls), sampleUrls) := by
  have hfailure : sampleUrls.findSome? (sample.failureAt []) =
      some (.fetch "a:?verb=ListRecords&resumptionToken=y" "down") := by decide +kernel
  have hstable : sample.Stable := stable_ofAnswers _ _
  obtain ⟨h, requests, hreachable, hbound, hhost, hurl⟩ := reachable_sample
  obtain ⟨url, reader, hurl', -, hharvest⟩ := harvest_of_trail hreachable hbound hstable
  obtain rfl := Except.ok.inj (hurl'.symm.trans hurl)
  have htrail : sample.Trail (h.parameters.hostUrl.getD "")
      (some "a:?verb=ListRecords&metadataPrefix=p") sampleUrls := by
    rw [hhost]
    exact trail_sample
  obtain ⟨-, -, -, hsink⟩ := hharvest sampleUrls htrail
  obtain ⟨-, haccepts, -⟩ := hsink (fun _ _ => .ok ()) 4 [] (by decide)
  refine ⟨h, requests, hreachable, hbound, hstable, ?_⟩
  rw [haccepts (Sink.accepts_of_ok (fun _ _ => rfl) _ _), hfailure]
  rfl

end Harvester

end MetadataHarvest
