import MetadataHarvest.Proofs.Harvester.Harvest
import MetadataHarvest.Proofs.RecordReader.Limit

/-!
# When a harvest finishes

A harvest passes one page after another and keeps no account of where it was. In a finite
repository it finishes when the tokens do not lead back to a page that was passed, and also
when a sink refuses a document on the way. Otherwise it passes the same pages over and over.
-/

namespace MetadataHarvest

open Markup Protocol Repository

namespace Harvester

/-- A harvest finishes, with the same result for all limits high enough. -/
def Finishes (h : Harvester) (r : Repository) (sink : Sink) (before : List String) : Prop :=
  Settles (fun limit => (h.harvest r sink limit).run before) (·.1.1 = .error .outOfPages)

variable {r : Repository} {t : Transformer} {sink : Sink}

/-- The pages of a harvest give the same with a higher limit. -/
theorem run_harvestPages_of_le {limit : Nat} :
    ∀ {higher : Nat}, limit ≤ higher →
      ∀ {reader : RecordReader} {summary : Summary} {accepted : List Document}
        {before : List String},
      ((harvestPages r t sink limit reader summary accepted).run before).1.1 ≠
        .error .outOfPages →
      (harvestPages r t sink higher reader summary accepted).run before =
        (harvestPages r t sink limit reader summary accepted).run before := by
  induction limit with
  | zero =>
      intro higher _ reader summary accepted before h
      exact absurd rfl h
  | succ limit ih =>
      intro higher hle reader summary accepted before h
      obtain ⟨higher, rfl⟩ := Nat.exists_eq_add_one.mpr (Nat.zero_lt_of_lt hle)
      rw [run_harvestPages_succ] at h ⊢
      rw [run_harvestPages_succ]
      generalize (reader.readPage r).run before = result at h
      obtain ⟨⟨outcome, next⟩, after⟩ := result
      cases outcome with
      | error e => rfl
      | ok page? =>
          cases page? with
          | none => rfl
          | some page =>
              dsimp only at h ⊢
              generalize sink.deliver accepted (page.map t.transform) = delivery at h
              obtain ⟨delivered, taken⟩ := delivery
              cases delivered with
              | error e => rfl
              | ok _ => exact ih (Nat.le_of_succ_le_succ hle) h

theorem finishes_iff {h : Harvester} {before : List String} :
    h.Finishes r sink before ↔
      ∃ limit, ((h.harvest r sink limit).run before).1.1 ≠ .error .outOfPages := by
  apply settles_iff
  intro limit higher hle hlimit
  unfold harvest at hlimit ⊢
  split
  · rfl
  · rfl
  · next transformer reader ht hreader =>
      rw [ht, hreader] at hlimit
      exact run_harvestPages_of_le hle hlimit

section Stable

variable (stable : r.Stable)

include stable in
/-- Where the pages come to a stop, a harvest finishes. -/
theorem harvestPages_of_trail {reader : RecordReader} {urls : List String}
    (trail : r.Trail reader.host reader.nextUrl urls) (hbuffer : reader.buffer = [])
    (summary : Summary) (accepted : List Document) (before : List String) :
    ((harvestPages r t sink (urls.length + 1) reader summary accepted).run before).1.1 ≠
      .error .outOfPages := by
  rcases sink.accepts_or_refuses accepted (documentsAt r t urls) with
    haccepts | ⟨first, e, hrefuses⟩
  · rw [run_harvestPages_of_accepts stable _ reader summary accepted before trail hbuffer
      (Nat.lt_succ_self _) haccepts]
    cases urls.findSome? (r.failureAt []) with
    | none => simp [ending]
    | some e => simp [ending]
  · obtain ⟨done, url, rest, -, hrun, -, -⟩ :=
      run_harvestPages_of_refuses stable _ reader summary accepted first before trail hbuffer
        (Nat.lt_succ_self _) hrefuses
    rw [hrun]
    simp

include stable in
/-- A document that is refused on the way ends a harvest. -/
theorem harvestPages_of_refuses_route {e : HarvestError} {n : Nat} :
    ∀ {reader : RecordReader} {summary : Summary} {accepted first : List Document}
      {before : List String}, reader.buffer = [] →
      sink.Refuses accepted (documentsAt r t (r.route reader.host n reader.nextUrl)) first e →
      ((harvestPages r t sink n reader summary accepted).run before).1.1 ≠
        .error .outOfPages := by
  -- The induction is on the number of addresses on the way.
  induction n with
  | zero =>
      rintro reader summary accepted first before - ⟨document, rest, hsplit, -, -⟩
      simp [documentsAt_nil, route] at hsplit
  | succ n ih =>
      intro reader summary accepted first before hbuffer hrefuses
      cases hurl : reader.nextUrl with
      | none =>
          obtain ⟨document, rest, hsplit, -, -⟩ := hrefuses
          rw [hurl, route_none, documentsAt_nil] at hsplit
          simp at hsplit
      | some url =>
          cases hpage : r.page? [] url with
          | none =>
              rw [run_harvestPages_last stable hbuffer hurl hpage]
              cases r.failureAt [] url with
              | none => simp [ending]
              | some e => simp [ending]
          | some page =>
              rw [hurl, route_succ_some, documentsAt_cons, recordsAt_of_page? hpage] at hrefuses
              rw [run_harvestPages_page stable hbuffer hurl hpage]
              -- The refused document is one of this page, or of a later one.
              rcases hrefuses.append with ⟨hhere, -⟩ | ⟨second, -, htaken, hlater⟩
              · rw [Sink.deliver_of_refuses hhere]
                simp
              · rw [Sink.deliver_of_accepts htaken]
                exact ih hbuffer hlater

include stable in
/-- Where the pages never come to a stop and no document on the way is refused, no limit is
enough for a harvest. -/
theorem harvestPages_of_endless {limit : Nat} :
    ∀ {reader : RecordReader} {summary : Summary} {accepted : List Document}
      {before : List String}, reader.buffer = [] → r.Endless reader.host reader.nextUrl →
      (∀ n, sink.Accepts accepted (documentsAt r t (r.route reader.host n reader.nextUrl))) →
      ((harvestPages r t sink limit reader summary accepted).run before).1.1 =
        .error .outOfPages := by
  induction limit with
  | zero =>
      intro reader summary accepted before _ _ _
      rfl
  | succ limit ih =>
      intro reader summary accepted before hbuffer endless haccepts
      obtain ⟨url, page, hurl, hpage, hafter⟩ := endless.next
      have hpage? := page?_of_ok hpage
      have hsplit : ∀ n, sink.Accepts accepted ((page.records.map t.transform).filterMap id) ∧
          sink.Accepts (accepted ++ (page.records.map t.transform).filterMap id)
            (documentsAt r t (r.route reader.host n (r.following reader.host [] url))) := by
        intro n
        have hn := haccepts (n + 1)
        rwa [hurl, route_succ_some, documentsAt_cons, recordsAt_of_page? hpage?,
          Sink.accepts_append] at hn
      rw [run_harvestPages_page stable hbuffer hurl hpage?,
        Sink.deliver_of_accepts (hsplit 0).1]
      apply ih
      · exact hbuffer
      · exact hafter
      · intro n
        exact (hsplit n).2

include stable in
/-- A harvest finishes unless its pages never come to a stop and its sink refuses no document
on the way. -/
theorem finishes_iff_of_stable {h : Harvester} {before : List String} :
    h.Finishes r sink before ↔
      ∀ t reader, h.negotiation.transformer = some t → h.records = .ok reader →
        r.Endless reader.host reader.nextUrl →
        ∃ n first e, sink.Refuses []
          (documentsAt r t (r.route reader.host n reader.nextUrl)) first e := by
  rw [finishes_iff]
  constructor
  · rintro ⟨limit, hlimit⟩ t reader ht hrecords endless
    obtain ⟨url, -, hreader⟩ := RecordReader.exists_of_start hrecords
    have hbuffer : reader.buffer = [] := congrArg (·.buffer) hreader
    by_contra hrefuses
    apply hlimit
    rw [harvest_of_records ht hrecords]
    apply harvestPages_of_endless stable hbuffer endless
    intro n
    rcases sink.accepts_or_refuses [] (documentsAt r t (r.route reader.host n reader.nextUrl))
      with haccepts | ⟨first, e, hn⟩
    · exact haccepts
    · exact absurd ⟨n, first, e, hn⟩ hrefuses
  · intro hendless
    cases ht : h.negotiation.transformer with
    | none =>
        refine ⟨0, ?_⟩
        simp only [harvest, Negotiation.current, ht]
        intro houtcome
        cases houtcome
    | some t =>
        cases hrecords : h.records with
        | error cause =>
            refine ⟨0, ?_⟩
            simp only [harvest, Negotiation.current, ht, hrecords]
            intro houtcome
            cases houtcome
        | ok reader =>
            obtain ⟨url, -, hreader⟩ := RecordReader.exists_of_start hrecords
            have hbuffer : reader.buffer = [] := congrArg (·.buffer) hreader
            rcases r.trail_or_endless reader.host reader.nextUrl with ⟨urls, trail⟩ | endless
            · refine ⟨urls.length + 1, ?_⟩
              rw [harvest_of_records ht hrecords]
              exact harvestPages_of_trail stable trail hbuffer _ _ _
            · obtain ⟨n, first, e, hrefuses⟩ := hendless t reader ht hrecords endless
              refine ⟨n, ?_⟩
              rw [harvest_of_records ht hrecords]
              exact harvestPages_of_refuses_route stable hbuffer hrefuses

end Stable

/-- In a finite repository everything that goes on until the list ends does come to an end,
unless the tokens lead back to a page that was passed. A call for a record comes back even
then, when something is in the buffer or a page on the way holds a record, and a harvest when
its sink refuses a document on the way. -/
theorem finishes_unless_leadsBack (answers : List (String × String)) (reason : String)
    (reader : RecordReader) (h : Harvester) (sink : Sink) (before : List String) :
    let r := ofAnswers answers reason
    (RecordReader.Returns r reader before ↔
      ¬(reader.buffer = [] ∧ r.LeadsBack reader.host reader.nextUrl ∧
        r.Barren reader.host reader.nextUrl)) ∧
    (RecordReader.Ends r reader before ↔ ¬r.LeadsBack reader.host reader.nextUrl) ∧
    (h.Finishes r sink before ↔
      ∀ t first, h.negotiation.transformer = some t → h.records = .ok first →
        r.LeadsBack first.host first.nextUrl →
        ∃ n taken e, sink.Refuses []
          (documentsAt r t (r.route first.host n first.nextUrl)) taken e) := by
  intro r
  have stable : r.Stable := stable_ofAnswers answers reason
  refine ⟨?_, ?_, ?_⟩
  · rw [RecordReader.returns_iff_not_barren stable, endless_iff_leadsBack]
  · rw [RecordReader.ends_iff_not_endless stable, endless_iff_leadsBack]
  · simp only [finishes_iff_of_stable stable, r, endless_iff_leadsBack]

/-- In a finite repository whose token leads back, a call for the first record does not come
back, nor does reading to the end or a harvest to a sink that takes everything. -/
theorem not_finishes_circle :
    ∃ h requests reader, Reachable sampleCatalog circle h requests ∧
      h.negotiation.transformer = some .dublinCore ∧ h.records = .ok reader ∧
      ¬RecordReader.Returns circle reader requests ∧
      ¬RecordReader.Ends circle reader requests ∧
      ¬h.Finishes circle (fun _ _ => .ok ()) requests := by
  have hmade : ((ofParameters sampleCatalog circle
      { hostUrl := some "a:", metadataPrefix := some "p" }).run []).1.map (fun h =>
        (h.negotiation.transformer, h.parameters.hostUrl, h.listRecordsUrl)) =
      .ok (some .dublinCore, some "a:", .ok "a:?verb=ListRecords&metadataPrefix=p") := by
    decide +kernel
  obtain ⟨h, requests, reachable, ht, hhost, hurl⟩ := exists_reachable hmade
  have stable : circle.Stable := stable_ofAnswers _ _
  have hrecords : h.records =
      .ok (RecordReader.beginning "a:" "a:?verb=ListRecords&metadataPrefix=p") := by
    have htrimmed : Text.trimmed (h.parameters.hostUrl.getD "") = "a:" := by
      rw [hhost]
      decide +kernel
    rw [← htrimmed]
    exact RecordReader.start_of_listRecordsUrl hurl
  have hendless := leadsBack_circle.endless
  refine ⟨h, requests, _, reachable, ht, hrecords, ?_, ?_, ?_⟩
  · rw [RecordReader.returns_iff_not_barren stable, not_not]
    exact ⟨rfl, hendless, barren_circle⟩
  · rw [RecordReader.ends_iff_not_endless stable, not_not]
    exact hendless
  · rw [finishes_iff_of_stable stable]
    intro hfinishes
    obtain ⟨n, first, e, document, rest, -, -, hrefused⟩ := hfinishes _ _ ht hrecords hendless
    cases hrefused

end Harvester

end MetadataHarvest
