import MetadataHarvest.Proofs.RecordReader.Trail

/-!
# Where a reader stands

A reader on a trail has records before it, those in its buffer and those of the pages ahead.
Whatever it is asked for, it hands out records from the front of these and keeps the rest,
and it says that the list has ended, or fails, only when none remain.
-/

namespace MetadataHarvest

open Markup Protocol

namespace RecordReader

open Repository

/-- A reader with the requests made so far and the addresses ahead of it. -/
structure Place where
  reader : RecordReader
  requests : List String
  ahead : List String

/-- The records that were not handed out. -/
def Place.remaining (r : Repository) (p : Place) : List Element :=
  p.reader.buffer ++ p.ahead.flatMap (r.recordsAt [])

/-- The failure ahead, if there is one. -/
def Place.failure (r : Repository) (p : Place) : Option HarvestError :=
  p.ahead.findSome? (r.failureAt [])

/-- From one place to another `given` is handed out from the front of what remained, the
requests are those of the addresses passed, and the counts keep up. -/
structure Advances (r : Repository) (p : Place) (given : List Element) (q : Place) : Prop where
  trail : r.Trail q.reader.host q.reader.nextUrl q.ahead
  requests : ∃ passed, p.ahead = passed ++ q.ahead ∧ q.requests = p.requests ++ passed
  remaining : p.remaining r = given ++ q.remaining r
  recordsRead : q.reader.recordsRead = p.reader.recordsRead + given.length
  pagesRead : q.reader.pagesRead + q.ahead.countP (r.responds []) =
    p.reader.pagesRead + p.ahead.countP (r.responds [])

variable {r : Repository} {p q s : Place} {given more : List Element}

theorem Advances.refl (trail : r.Trail p.reader.host p.reader.nextUrl p.ahead) :
    Advances r p [] p where
  trail := trail
  requests := ⟨[], rfl, (List.append_nil _).symm⟩
  remaining := rfl
  recordsRead := rfl
  pagesRead := rfl

/-- What is handed out on two parts of a way is handed out on the whole of it. -/
theorem Advances.trans (h : Advances r p given q) (h' : Advances r q more s) :
    Advances r p (given ++ more) s where
  trail := h'.trail
  requests := by
    obtain ⟨passed, hahead, hrequests⟩ := h.requests
    obtain ⟨passed', hahead', hrequests'⟩ := h'.requests
    exact ⟨passed ++ passed', by rw [hahead, hahead', List.append_assoc],
      by rw [hrequests', hrequests, List.append_assoc]⟩
  remaining := by rw [h.remaining, h'.remaining, List.append_assoc]
  recordsRead := by rw [h'.recordsRead, h.recordsRead, List.length_append, Nat.add_assoc]
  pagesRead := h'.pagesRead.trans h.pagesRead

/-- Where nothing is ahead every address was requested. -/
theorem Advances.requests_of_ahead_eq_nil (h : Advances r p given q) (hahead : q.ahead = []) :
    q.requests = p.requests ++ p.ahead := by
  obtain ⟨passed, hpassed, hrequests⟩ := h.requests
  rw [hahead, List.append_nil] at hpassed
  rw [hrequests, hpassed]

/-- Records are handed out from the front of the buffer. -/
theorem advances_count (trail : r.Trail p.reader.host p.reader.nextUrl p.ahead)
    (given rest : List Element) (hbuffer : p.reader.buffer = given ++ rest) :
    Advances r p given
      ⟨({ p.reader with buffer := rest }).count given, p.requests, p.ahead⟩ where
  trail := trail
  requests := ⟨[], rfl, (List.append_nil _).symm⟩
  remaining := by simp only [Place.remaining, hbuffer, count, List.append_assoc]
  recordsRead := rfl
  pagesRead := rfl

/-- The place after the next page was requested, with its records in the buffer. -/
def Place.turned (r : Repository) (p : Place) (url : String) : Place where
  reader := { p.reader.turnAt r [] url with buffer := r.recordsAt [] url }
  requests := p.requests ++ [url]
  ahead := p.ahead.tail

/-- A request hands out nothing and moves the records of its page to the buffer. -/
theorem advances_turned (trail : r.Trail p.reader.host p.reader.nextUrl p.ahead)
    (hbuffer : p.reader.buffer = []) {url : String} (hurl : p.reader.nextUrl = some url) :
    p.ahead = url :: (p.turned r url).ahead ∧ Advances r p [] (p.turned r url) := by
  obtain ⟨reader, requests, ahead⟩ := p
  dsimp only at trail hbuffer hurl
  rw [hurl] at trail
  cases trail with
  | @turn _ urls tail =>
      refine ⟨rfl, ?_⟩
      constructor
      · exact tail
      · exact ⟨[url], rfl, rfl⟩
      · simp [Place.remaining, Place.turned, hbuffer]
      · rfl
      · simp only [Place.turned, pagesRead_turnAt, List.tail_cons, List.countP_cons]
        cases r.responds [] url with
        | false => simp
        | true =>
            simp only [Bool.toNat_true, if_true]
            omega

/-- What a reader may answer at a place, and where it stands then. It says that the list has
ended, or fails, only when no record remains. -/
inductive Leads (r : Repository) (p q : Place) :
    Except HarvestError (Option (List Element)) → Prop
  | given {records : List Element} (advances : Advances r p records q)
      (failure : p.failure r = q.failure r) : Leads r p q (.ok (some records))
  | ended (advances : Advances r p [] q) (remaining : p.remaining r = [])
      (ahead : q.ahead = []) (failure : p.failure r = none) : Leads r p q (.ok none)
  | failed {e : HarvestError} (advances : Advances r p [] q) (remaining : p.remaining r = [])
      (ahead : q.ahead = []) (failure : p.failure r = some e) : Leads r p q (.error e)

/-- Nothing that was passed without being handed out changes what an answer may be. -/
theorem Leads.of_advances {outcome : Except HarvestError (Option (List Element))}
    (advances : Advances r p [] q) (failure : p.failure r = q.failure r)
    (leads : Leads r q s outcome) : Leads r p s outcome := by
  have hremaining : p.remaining r = q.remaining r := advances.remaining
  cases leads with
  | given advances' failure' => exact .given (advances.trans advances') (failure.trans failure')
  | ended advances' remaining ahead failure' =>
      exact .ended (advances.trans advances') (hremaining.trans remaining) ahead
        (failure.trans failure')
  | failed advances' remaining ahead failure' =>
      exact .failed (advances.trans advances') (hremaining.trans remaining) ahead
        (failure.trans failure')

section Stable

variable (stable : r.Stable) (trail : r.Trail p.reader.host p.reader.nextUrl p.ahead)

/-- Where no page was read, nothing is ahead and nothing came into the buffer. -/
theorem turned_of_page?_eq_none (hbuffer : p.reader.buffer = []) {url : String}
    (hpage : r.page? [] url = none) : (p.turned r url).reader = p.reader.turnAt r [] url := by
  simp only [Place.turned, recordsAt_of_page?_eq_none hpage, ← hbuffer]
  rfl

include trail in
theorem ahead_turned_of_page?_eq_none (hbuffer : p.reader.buffer = []) {url : String}
    (hurl : p.reader.nextUrl = some url) (hpage : r.page? [] url = none) :
    (p.turned r url).ahead = [] := by
  have hnone : (p.turned r url).reader.nextUrl = none :=
    following_of_page?_eq_none hpage
  have htrail := (advances_turned trail hbuffer hurl).2.trail
  rw [hnone] at htrail
  exact htrail.eq_nil

include trail in
/-- A page that was read is passed, and its records are in the buffer. -/
theorem failure_turned (hbuffer : p.reader.buffer = []) {url : String}
    (hurl : p.reader.nextUrl = some url) :
    p.failure r = (r.failureAt [] url).or ((p.turned r url).failure r) := by
  simp only [Place.failure, (advances_turned trail hbuffer hurl).1, List.findSome?_cons]
  cases r.failureAt [] url with
  | none => rfl
  | some e => rfl

include trail in
/-- Where no page was read, that was the last address and no record remained. -/
theorem remaining_of_page?_eq_none (hbuffer : p.reader.buffer = []) {url : String}
    (hurl : p.reader.nextUrl = some url) (hpage : r.page? [] url = none) :
    p.remaining r = [] := by
  rw [(advances_turned trail hbuffer hurl).2.remaining, Place.remaining,
    ahead_turned_of_page?_eq_none trail hbuffer hurl hpage]
  simp only [Place.turned, recordsAt_of_page?_eq_none hpage]
  rfl

include trail in
theorem failure_of_page?_eq_none (hbuffer : p.reader.buffer = []) {url : String}
    (hurl : p.reader.nextUrl = some url) (hpage : r.page? [] url = none) :
    p.failure r = r.failureAt [] url := by
  rw [failure_turned trail hbuffer hurl, Place.failure,
    ahead_turned_of_page?_eq_none trail hbuffer hurl hpage]
  exact Option.or_none

include trail in
/-- A failure to read a page is the last answer before the end. -/
theorem leads_turned_error (hbuffer : p.reader.buffer = []) {url : String}
    (hurl : p.reader.nextUrl = some url) {e : HarvestError} (hpage : r.page [] url = .error e) :
    Leads r p (p.turned r url) (.error e) := by
  have hnone := page?_of_error hpage
  refine .failed (advances_turned trail hbuffer hurl).2
    (remaining_of_page?_eq_none trail hbuffer hurl hnone)
    (ahead_turned_of_page?_eq_none trail hbuffer hurl hnone) ?_
  rw [failure_of_page?_eq_none trail hbuffer hurl hnone]
  simp only [failureAt, hpage]

include trail in
/-- A repository without a matching record ends the list. -/
theorem leads_turned_none (hbuffer : p.reader.buffer = []) {url : String}
    (hurl : p.reader.nextUrl = some url) (hpage : r.page [] url = .ok none) :
    Leads r p (p.turned r url) (.ok none) := by
  have hnone := page?_of_ok hpage
  refine .ended (advances_turned trail hbuffer hurl).2
    (remaining_of_page?_eq_none trail hbuffer hurl hnone)
    (ahead_turned_of_page?_eq_none trail hbuffer hurl hnone) ?_
  rw [failure_of_page?_eq_none trail hbuffer hurl hnone]
  simp only [failureAt, hpage]

include trail in
theorem leads_of_nextUrl_eq_none (hbuffer : p.reader.buffer = [])
    (hurl : p.reader.nextUrl = none) : Leads r p p (.ok none) := by
  have hahead : p.ahead = [] := by
    have htrail := trail
    rw [hurl] at htrail
    exact htrail.eq_nil
  refine .ended (.refl trail) ?_ hahead ?_
  · simp [Place.remaining, hbuffer, hahead]
  · simp [Place.failure, hahead]

include trail in
/-- After a page was read, its records are what the buffer holds, and no failure is passed. -/
theorem advances_turned_page (hbuffer : p.reader.buffer = []) {url : String}
    (hurl : p.reader.nextUrl = some url) {page : RecordPage}
    (hpage : r.page [] url = .ok (some page)) :
    (p.turned r url).reader = { p.reader.turnAt r [] url with buffer := page.records } ∧
      Advances r p [] (p.turned r url) ∧ p.failure r = (p.turned r url).failure r := by
  refine ⟨?_, (advances_turned trail hbuffer hurl).2, ?_⟩
  · simp only [Place.turned, recordsAt, page?_of_ok hpage, Option.map_some, Option.getD_some]
  · rw [failure_turned trail hbuffer hurl]
    simp only [failureAt, hpage, Option.none_or]

include stable trail in
/-- Whatever a call for a page answers, the reader stands on its trail and nothing is lost. -/
theorem readPage_leads : ∃ outcome q,
    (p.reader.readPage r).run p.requests = ((outcome, q.reader), q.requests) ∧
      Leads r p q outcome := by
  cases hbuffer : p.reader.buffer with
  | cons record rest =>
      have hgiven := advances_count trail (record :: rest) []
        (by rw [hbuffer, List.append_nil])
      exact ⟨_, _, run_readPage_cons hbuffer r p.requests, .given hgiven rfl⟩
  | nil =>
      cases hurl : p.reader.nextUrl with
      | none =>
          exact ⟨_, p, run_readPage_none hbuffer hurl r p.requests,
            leads_of_nextUrl_eq_none trail hbuffer hurl⟩
      | some url =>
          have hrun := stable.run_readPage hbuffer hurl p.requests
          cases hpage : r.page [] url with
          | error e =>
              have hnone := page?_of_error hpage
              refine ⟨_, _, ?_, leads_turned_error trail hbuffer hurl hpage⟩
              rw [hrun, hpage, turned_of_page?_eq_none hbuffer hnone,
                recordsAt_of_page?_eq_none hnone]
              rfl
          | ok page? =>
              cases page? with
              | none =>
                  have hnone := page?_of_ok hpage
                  refine ⟨_, _, ?_, leads_turned_none trail hbuffer hurl hpage⟩
                  rw [hrun, hpage, turned_of_page?_eq_none hbuffer hnone,
                    recordsAt_of_page?_eq_none hnone]
                  rfl
              | some page =>
                  obtain ⟨hreader, hturned, hfailure⟩ :=
                    advances_turned_page trail hbuffer hurl hpage
                  have hgiven := advances_count hturned.trail page.records []
                    (by rw [hreader, List.append_nil])
                  refine ⟨_, _, ?_, .of_advances hturned hfailure (.given hgiven rfl)⟩
                  rw [hrun, hpage, hreader, recordsAt_of_page? (page?_of_ok hpage)]
                  simp only [turnAt, hbuffer]
                  rfl

end Stable

/-- Whatever a call for a record answers, the reader stands on its trail and nothing is lost.
With a limit above the number of pages ahead it is an answer, however many of them are
empty. -/
theorem nextRecord_leads (stable : r.Stable) {limit : Nat} :
    ∀ {p : Place}, r.Trail p.reader.host p.reader.nextUrl p.ahead → p.ahead.length < limit →
      ∃ (outcome : Except HarvestError (Option Element)) (q : Place),
        (nextRecord r limit p.reader).run p.requests =
          ((outcome.mapError .failed, q.reader), q.requests) ∧
        Leads r p q (outcome.map (Option.map fun record => [record])) := by
  -- The induction is on the limit: a page without records leaves fewer pages ahead.
  induction limit with
  | zero =>
      intro p trail hlimit
      omega
  | succ limit ih =>
      intro p trail hlimit
      cases hbuffer : p.reader.buffer with
      | cons record rest =>
          have hgiven := advances_count trail [record] rest hbuffer
          exact ⟨.ok (some record), _, run_nextRecord_cons hbuffer r _ p.requests,
            .given hgiven rfl⟩
      | nil =>
          cases hurl : p.reader.nextUrl with
          | none =>
              exact ⟨.ok none, p, run_nextRecord_none hbuffer hurl r limit p.requests,
                leads_of_nextUrl_eq_none trail hbuffer hurl⟩
          | some url =>
              have hrun := stable.run_nextRecord hbuffer hurl limit p.requests
              cases hpage : r.page [] url with
              | error e =>
                  refine ⟨.error e, _, ?_, leads_turned_error trail hbuffer hurl hpage⟩
                  rw [hrun, hpage, turned_of_page?_eq_none hbuffer (page?_of_error hpage)]
                  rfl
              | ok page? =>
                  cases page? with
                  | none =>
                      refine ⟨.ok none, _, ?_, leads_turned_none trail hbuffer hurl hpage⟩
                      rw [hrun, hpage, turned_of_page?_eq_none hbuffer (page?_of_ok hpage)]
                      rfl
                  | some page =>
                      obtain ⟨hreader, hturned, hfailure⟩ :=
                        advances_turned_page trail hbuffer hurl hpage
                      have hahead := (advances_turned trail hbuffer hurl).1
                      rw [hahead, List.length_cons] at hlimit
                      obtain ⟨outcome, q, hnext, hleads⟩ := ih hturned.trail (by omega)
                      refine ⟨outcome, q, ?_, hleads.of_advances hturned hfailure⟩
                      rw [hreader] at hnext
                      rw [hrun, hpage]
                      exact hnext

end RecordReader

end MetadataHarvest
