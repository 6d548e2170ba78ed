import MetadataHarvest.Proofs.RecordReader.Place
import MetadataHarvest.Proofs.Text.Trim

/-!
# Reading in any order

Records may be asked for one at a time or page by page, in any order of calls. Whatever the
order, what is handed out is the list from its beginning on: its records in their order, each
once, and every one of them before the list is said to have ended or a failure is reported.
-/

namespace MetadataHarvest

open Markup Protocol Repository

namespace RecordReader

/-- What a reader may be asked for. -/
inductive Call where
  | record
  | page

/-- What a call answers: records, the end of the list, or an interruption. -/
abbrev Answer := Except Interruption (Option (List Element))

/-- The records of an answer. -/
def Answer.records : Answer → List Element
  | .ok (some records) => records
  | .ok none | .error _ => []

/-- Carries out a call. A call for a record requests at most `limit` pages. -/
def perform (r : Repository) (limit : Nat) (reader : RecordReader) :
    Call → Session (Answer × RecordReader)
  | .record => do
    let (outcome, reader) ← nextRecord r limit reader
    return (outcome.map (Option.map fun record => [record]), reader)
  | .page => do
    let (outcome, reader) ← reader.readPage r
    return (outcome.mapError .failed, reader)

/-- A reader with the answers it has given and all requests made so far. -/
structure Reading where
  answers : List Answer
  reader : RecordReader
  requests : List String

namespace Reading

/-- All records that were handed out. -/
def handed (s : Reading) : List Element := s.answers.flatMap Answer.records

/-- The reading with one more call. -/
def next (r : Repository) (limit : Nat) (s : Reading) (call : Call) : Reading :=
  let result := (s.reader.perform r limit call).run s.requests
  { answers := s.answers ++ [result.1.1]
    reader := result.1.2
    requests := result.2 }

end Reading

/-- The reading that these calls of a reader are, after other requests. -/
def reading (r : Repository) (limit : Nat) (reader : RecordReader) (before : List String)
    (calls : List Call) : Reading :=
  calls.foldl (Reading.next r limit) ⟨[], reader, before⟩

theorem reading_append_singleton (r : Repository) (limit : Nat) (reader : RecordReader)
    (before : List String) (calls : List Call) (call : Call) :
    reading r limit reader before (calls ++ [call]) =
      (reading r limit reader before calls).next r limit call := by
  simp only [reading, List.foldl_append, List.foldl_cons, List.foldl_nil]

/-- A reader that has requested nothing and asks at `url` first. -/
def beginning (host url : String) : RecordReader where
  host := host
  nextUrl := some url
  buffer := []
  pagesRead := 0
  recordsRead := 0
  listSize := none

/-- An address at which a list begins makes a reader there. -/
theorem start_of_listRecordsUrl {address metadataPrefix : String} {since upTo : Option String}
    {url : String} (h : listRecordsUrl address metadataPrefix since upTo = .ok url) :
    start address metadataPrefix since upTo = .ok (beginning (Text.trimmed address) url) := by
  have hhost : Protocol.host address = .ok (Text.trimmed address) := by
    cases hblank : Text.nonBlank? address with
    | none =>
        have herror : Protocol.host address = .error .missingHostUrl := by
          simp only [Protocol.host, hblank]
        rw [listRecordsUrl, herror] at h
        cases h
    | some host =>
        obtain ⟨rfl, -⟩ := Text.nonBlank?_eq_some_iff.mp hblank
        simp only [Protocol.host, hblank]
  simp only [start, h, hhost]
  rfl

/-- A reader that was made has such an address before it. -/
theorem exists_of_start {address metadataPrefix : String} {since upTo : Option String}
    {reader : RecordReader} (h : start address metadataPrefix since upTo = .ok reader) :
    ∃ url, listRecordsUrl address metadataPrefix since upTo = .ok url ∧
      reader = beginning (Text.trimmed address) url := by
  cases hurl : listRecordsUrl address metadataPrefix since upTo with
  | error cause =>
      rw [start, hurl] at h
      cases h
  | ok url =>
      rw [start_of_listRecordsUrl hurl] at h
      exact ⟨url, rfl, (Except.ok.inj h).symm⟩

variable {r : Repository} {limit : Nat}

/-- A call for a record hands out one record at a time. -/
theorem length_of_perform_record {reader : RecordReader} {before : List String}
    {records : List Element}
    (h : ((reader.perform r limit .record).run before).1.1 = .ok (some records)) :
    records.length = 1 := by
  simp only [perform, Session.run_bind] at h
  generalize (nextRecord r limit reader).run before = result at h
  obtain ⟨⟨outcome, next⟩, after⟩ := result
  cases outcome with
  | error e => cases h
  | ok record? =>
      cases record? with
      | none => cases h
      | some record =>
          cases h
          rfl

/-- Whatever is asked for, the reader stands on its trail and nothing is lost. -/
theorem perform_leads (stable : r.Stable) {p : Place}
    (trail : r.Trail p.reader.host p.reader.nextUrl p.ahead) (hlimit : p.ahead.length < limit)
    (call : Call) :
    ∃ (outcome : Except HarvestError (Option (List Element))) (q : Place),
      (p.reader.perform r limit call).run p.requests =
          ((outcome.mapError .failed, q.reader), q.requests) ∧ Leads r p q outcome := by
  cases call with
  | record =>
      obtain ⟨outcome, q, hrun, hleads⟩ := nextRecord_leads stable trail hlimit
      refine ⟨_, q, ?_, hleads⟩
      simp only [perform, StateT.run_bind, hrun]
      cases outcome with
      | error e => rfl
      | ok record? => rfl
  | page =>
      obtain ⟨outcome, q, hrun, hleads⟩ := readPage_leads stable trail
      refine ⟨outcome, q, ?_, hleads⟩
      simp only [perform, StateT.run_bind, hrun]
      rfl

/-- Reading on to the end hands out all records that remain and then the failure ahead, if
there is one, and requests every address ahead. -/
theorem run_drain (stable : r.Stable) (limit : Nat) :
    ∀ (p : Place), r.Trail p.reader.host p.reader.nextUrl p.ahead →
      (p.remaining r).length + p.ahead.length < limit →
      ∃ reader, (drain r limit p.reader).run p.requests =
        (((p.remaining r).map .ok ++ (p.failure r).toList.map fun e => .error (.failed e),
          reader), p.requests ++ p.ahead) := by
  -- The induction is on the limit: each step leaves fewer records or passes the last address.
  induction limit with
  | zero =>
      intro p trail hlimit
      omega
  | succ limit ih =>
      intro p trail hlimit
      have hlimit' : p.ahead.length < limit + 1 := by omega
      obtain ⟨outcome, q, hrun, hleads⟩ := nextRecord_leads stable trail hlimit'
      rw [drain, Session.run_bind, hrun]
      cases outcome with
      | error e =>
          cases hleads with
          | failed advances remaining ahead failure =>
              have hrequests := advances.requests_of_ahead_eq_nil ahead
              have hremaining : q.remaining r = [] := advances.remaining.symm.trans remaining
              have hfailure : q.failure r = none := by
                rw [Place.failure, ahead, List.findSome?_nil]
              have hpos : 0 < p.ahead.length := by
                refine List.length_pos_iff.mpr fun hnil => ?_
                rw [Place.failure, hnil] at failure
                cases failure
              obtain ⟨reader, hdrain⟩ := ih q advances.trail (by
                rw [hremaining, ahead, List.length_nil, List.length_nil]
                omega)
              refine ⟨reader, ?_⟩
              dsimp only [mapError_error]
              rw [Session.run_bind, hdrain, hremaining, hfailure, remaining, failure, hrequests,
                ahead, List.append_nil]
              rfl
      | ok record? =>
          cases record? with
          | none =>
              cases hleads with
              | ended advances remaining ahead failure =>
                  refine ⟨q.reader, ?_⟩
                  rw [remaining, failure, advances.requests_of_ahead_eq_nil ahead]
                  rfl
          | some record =>
              cases hleads with
              | given advances failure =>
                  obtain ⟨passed, hpassed, hrequests⟩ := advances.requests
                  have hremaining : p.remaining r = record :: q.remaining r := advances.remaining
                  rw [hremaining, hpassed, List.length_cons, List.length_append] at hlimit
                  obtain ⟨reader, hdrain⟩ := ih q advances.trail (by omega)
                  refine ⟨reader, ?_⟩
                  dsimp only [mapError_ok]
                  rw [Session.run_bind, hdrain, hremaining, failure, hrequests, hpassed,
                    List.append_assoc]
                  rfl

/-- What an answer hands out is what the way to the next place hands out. -/
theorem Leads.advances_records {p q : Place}
    {outcome : Except HarvestError (Option (List Element))} (leads : Leads r p q outcome) :
    Advances r p (Answer.records (outcome.mapError .failed)) q := by
  cases leads with
  | given advances _ => exact advances
  | ended advances _ _ _ => exact advances
  | failed advances _ _ _ => exact advances

/-- No record remains where the list is said to have ended or a failure is reported. -/
theorem Leads.remaining_eq_nil {p q : Place}
    {outcome : Except HarvestError (Option (List Element))} (leads : Leads r p q outcome)
    (h : ∀ records, outcome ≠ .ok (some records)) : p.remaining r = [] := by
  cases leads with
  | given _ _ => exact absurd rfl (h _)
  | ended _ remaining _ _ => exact remaining
  | failed _ remaining _ _ => exact remaining

/-- After any calls the reader has advanced by what was handed out, on its trail. -/
theorem advances_reading (stable : r.Stable) (reader : RecordReader) {urls : List String}
    (trail : r.Trail reader.host reader.nextUrl urls) (hlimit : urls.length < limit)
    (before : List String) (calls : List Call) :
    let s := reading r limit reader before calls
    (∃ ahead, Advances r ⟨reader, before, urls⟩ s.handed ⟨s.reader, s.requests, ahead⟩) ∧
      ∀ answer ∈ s.answers, answer ≠ .error .outOfPages := by
  induction calls using List.reverseRecOn with
  | nil =>
      refine ⟨⟨urls, .refl trail⟩, ?_⟩
      intro answer hmem
      cases hmem
  | append_singleton calls call ih =>
      rw [reading_append_singleton]
      obtain ⟨⟨ahead, hadvances⟩, hanswers⟩ := ih
      have hahead : ahead.length ≤ urls.length := by
        obtain ⟨passed, hpassed, -⟩ := hadvances.requests
        dsimp only at hpassed
        rw [hpassed, List.length_append]
        omega
      obtain ⟨outcome, q, hrun, hleads⟩ :=
        perform_leads stable hadvances.trail (hahead.trans_lt hlimit) call
      dsimp only at hrun
      refine ⟨⟨q.ahead, ?_⟩, ?_⟩
      · have htrans := hadvances.trans hleads.advances_records
        simpa only [Reading.next, Reading.handed, hrun, List.flatMap_append,
          List.flatMap_singleton] using htrans
      · intro answer hmem
        simp only [Reading.next, hrun, List.mem_append, List.mem_singleton] at hmem
        rcases hmem with hmem | rfl
        · exact hanswers answer hmem
        · cases outcome with
          | error e => simp
          | ok records? => simp

/-- After a call for a page the page that was begun is used up, and where it hands out nothing a
page was requested. -/
theorem perform_page_given {reader next : RecordReader} {before after : List String}
    {records : List Element}
    (h : (reader.perform r limit .page).run before = ((.ok (some records), next), after)) :
    next.buffer = [] ∧ (records = [] → after ≠ before) := by
  simp only [perform, Session.run_bind] at h
  cases hbuffer : reader.buffer with
  | cons record rest =>
      rw [run_readPage_cons hbuffer] at h
      cases h
      exact ⟨rfl, nofun⟩
  | nil =>
      cases hurl : reader.nextUrl with
      | none =>
          rw [run_readPage_none hbuffer hurl] at h
          cases h
      | some url =>
          rw [run_readPage_some hbuffer hurl] at h
          obtain ⟨hresult, rfl⟩ := Prod.mk.inj h
          obtain ⟨-, rfl⟩ := Prod.mk.inj hresult
          exact ⟨hbuffer, fun _ => by simp⟩

section Trail

variable {host url : String} {urls : List String} (stable : r.Stable)
  (trail : r.Trail host (some url) urls) (hlimit : urls.length < limit) (before : List String)
  (calls : List Call)

include stable trail hlimit

/-- Any calls lead to a place on the chain. What was handed out and what remains there are all
records of the chain. -/
theorem place_of_trail :
    let s := reading r limit (beginning host url) before calls
    ∃ requested ahead, urls = requested ++ ahead ∧ s.requests = before ++ requested ∧
      Advances r ⟨beginning host url, before, urls⟩ s.handed ⟨s.reader, s.requests, ahead⟩ ∧
      urls.flatMap (r.recordsAt []) =
        s.handed ++ Place.remaining r ⟨s.reader, s.requests, ahead⟩ := by
  obtain ⟨⟨ahead, hadvances⟩, -⟩ :=
    advances_reading stable (beginning host url) trail hlimit before calls
  obtain ⟨requested, hahead, hrequests⟩ := hadvances.requests
  exact ⟨requested, ahead, hahead, hrequests, hadvances, hadvances.remaining⟩

/-- Any calls of a reader on a finite chain of pages hand out the records of the chain from
the first on, each once and in order, count them and the responses, and request the addresses
of the chain from the first on, each once. -/
theorem reading_of_trail :
    let s := reading r limit (beginning host url) before calls
    (∃ requested, s.requests = before ++ requested ∧ requested <+: urls ∧
      requested.Nodup ∧ s.reader.pagesRead = requested.countP (r.responds [])) ∧
    s.handed <+: urls.flatMap (r.recordsAt []) ∧
    s.reader.recordsRead = s.handed.length ∧
    ∀ answer ∈ s.answers, answer ≠ .error .outOfPages := by
  intro s
  obtain ⟨requested, ahead, hurls, hrequests, hadvances, hremaining⟩ :=
    place_of_trail stable trail hlimit before calls
  obtain ⟨-, hanswers⟩ := advances_reading stable (beginning host url) trail hlimit before calls
  have hrecords : s.reader.recordsRead = 0 + s.handed.length := hadvances.recordsRead
  have hpages : s.reader.pagesRead + ahead.countP (r.responds []) =
      0 + urls.countP (r.responds []) := hadvances.pagesRead
  refine ⟨⟨requested, hrequests, ⟨ahead, hurls.symm⟩, ?_, ?_⟩, ⟨_, hremaining.symm⟩, by omega,
    hanswers⟩
  · have hnodup := trail.nodup
    rw [hurls] at hnodup
    exact (List.nodup_append.mp hnodup).1
  · rw [hurls, List.countP_append] at hpages
    omega

/-- After a call for a page, whole pages were handed out. -/
theorem handed_of_page {next : RecordReader} {after : List String} {records : List Element} :
    let s := reading r limit (beginning host url) before calls
    (s.reader.perform r limit .page).run s.requests = ((.ok (some records), next), after) →
      ∃ requested, after = before ++ requested ∧ requested <+: urls ∧
        s.handed ++ records = requested.flatMap (r.recordsAt []) := by
  intro s hrun
  have hnext : reading r limit (beginning host url) before (calls ++ [.page]) =
      ⟨s.answers ++ [.ok (some records)], next, after⟩ := by
    rw [reading_append_singleton, Reading.next, hrun]
  have hhanded : (⟨s.answers ++ [.ok (some records)], next, after⟩ : Reading).handed =
      s.handed ++ records := by
    rw [Reading.handed, List.flatMap_append, List.flatMap_singleton]
    rfl
  have hplace := place_of_trail stable trail hlimit before (calls ++ [.page])
  rw [hnext] at hplace
  obtain ⟨requested, ahead, hurls, hafter, -, hall⟩ := hplace
  obtain ⟨hbuffer, -⟩ := perform_page_given hrun
  refine ⟨requested, hafter, ⟨ahead, hurls.symm⟩, ?_⟩
  -- The buffer is empty, so nothing remains but the pages ahead.
  rw [hhanded, Place.remaining, hbuffer, List.nil_append, hurls, List.flatMap_append] at hall
  exact (List.append_cancel_right hall).symm

/-- After any calls, a call for a record hands out one of the chain and a call for a page all that
is left of it or all of the next one. A call says that the list has ended, or fails with the failure
of a page, only when all records of the chain were handed out before. -/
theorem perform_of_trail (call : Call) :
    let s := reading r limit (beginning host url) before calls
    let result := (s.reader.perform r limit call).run s.requests
    (call = .record → ∀ records, result.1.1 = .ok (some records) → records.length = 1) ∧
    (call = .page → ∀ records, result.1.1 = .ok (some records) →
      (∃ requested, result.2 = before ++ requested ∧ requested <+: urls ∧
        s.handed ++ records = requested.flatMap (r.recordsAt [])) ∧
      (records = [] → result.2 ≠ s.requests)) ∧
    (∀ e, result.1.1 = .error e →
      ∃ cause, e = .failed cause ∧ ∃ url ∈ urls, r.page [] url = .error cause) ∧
    ((∀ records, result.1.1 ≠ .ok (some records)) →
      s.handed = urls.flatMap (r.recordsAt [])) := by
  intro s result
  obtain ⟨requested, ahead, hurls, -, hadvances, hremaining⟩ :=
    place_of_trail stable trail hlimit before calls
  have hle : ahead.length ≤ urls.length := by
    rw [hurls, List.length_append]
    omega
  obtain ⟨outcome, q, hrun, hleads⟩ :=
    perform_leads stable hadvances.trail (hle.trans_lt hlimit) call
  have hresult : result = ((outcome.mapError .failed, q.reader), q.requests) := hrun
  have hanswer : result.1.1 = outcome.mapError .failed := by rw [hresult]
  refine ⟨?_, ?_, ?_, ?_⟩
  · rintro rfl records hrecords
    exact length_of_perform_record hrecords
  · rintro rfl records hrecords
    have hgiven : (s.reader.perform r limit .page).run s.requests =
        ((.ok (some records), result.1.2), result.2) :=
      Prod.ext (Prod.ext hrecords rfl) rfl
    exact ⟨handed_of_page stable trail hlimit before calls hgiven,
      (perform_page_given hgiven).2⟩
  · intro e he
    rw [hanswer] at he
    cases hleads with
    | given _ _ => cases he
    | ended _ _ _ _ => cases he
    | @failed cause _ _ _ hfailure =>
        obtain ⟨last, hlast, hat⟩ := List.exists_of_findSome?_eq_some hfailure
        have hmem : last ∈ urls := by
          rw [hurls]
          exact List.mem_append_right _ hlast
        exact ⟨cause, (Except.error.inj he).symm, last, hmem, page_of_failureAt hat⟩
  · intro hend
    have hnil := hleads.remaining_eq_nil fun records hrecords => by
      apply hend records
      rw [hanswer, hrecords]
      rfl
    rw [hremaining, hnil, List.append_nil]

end Trail

end RecordReader

end MetadataHarvest
