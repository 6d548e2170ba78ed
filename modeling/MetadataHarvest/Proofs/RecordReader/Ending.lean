import MetadataHarvest.Proofs.RecordReader.Reading

/-!
# The end of a list

A list of records has come to its end when the last response was a page without a token, or
said that no record matches. A reader that is told so says so. But it also gives up the list
at the first failure: what it answers from then on is the same as at the end of the list,
although pages may remain and the repository may be up again.
-/

namespace MetadataHarvest

open Markup Protocol

namespace Repository

/-- The response at `url` is the last one of a list. -/
def Concludes (r : Repository) (before : List String) (url : String) : Prop :=
  r.page before url = .ok none ∨
    ∃ page, r.page before url = .ok (some page) ∧ page.token = none

/-- The list is read to its end by these requests, of which `before` are older. -/
def Exhausted (r : Repository) (before requests : List String) : Prop :=
  ∃ earlier url, requests = earlier ++ [url] ∧ before <+: earlier ∧ r.Concludes earlier url

/-- What is still to be requested after requests none of which failed: the beginning of the
list, or what the last response leads to. -/
inductive Pending (r : Repository) (host : String) (before : List String) :
    Option String → List String → Prop
  | beginning (url : String) : Pending r host before (some url) before
  | response {pending : Option String} {earlier : List String} {url : String}
      {page? : Option RecordPage} (prior : before <+: earlier)
      (hpage : r.page earlier url = .ok page?)
      (leads : r.following host earlier url = pending) :
      Pending r host before pending (earlier ++ [url])

variable {r : Repository} {host : String} {before requests : List String}

theorem Pending.prior {pending : Option String} (h : r.Pending host before pending requests) :
    before <+: requests := by
  cases h with
  | beginning url => exact List.prefix_rfl
  | response prior _ _ => exact prior.trans (List.prefix_append _ _)

/-- Only the last response of a list leads nowhere. -/
theorem concludes_of_following_eq_none {url : String} {page? : Option RecordPage}
    (hpage : r.page before url = .ok page?) (h : r.following host before url = none) :
    r.Concludes before url := by
  cases page? with
  | none => exact .inl hpage
  | some page =>
      refine .inr ⟨page, hpage, ?_⟩
      simpa only [following, page?_of_ok hpage, Option.bind_some, Option.map_eq_none_iff] using h

/-- When nothing is pending the list is read to its end. -/
theorem Pending.exhausted (h : r.Pending host before none requests) :
    r.Exhausted before requests := by
  cases h with
  | response prior hpage leads =>
      exact ⟨_, _, rfl, prior, concludes_of_following_eq_none hpage leads⟩

end Repository

namespace RecordReader

open Repository

/-- A reader that gave up its list, since the last of its requests failed. -/
structure Spent (r : Repository) (reader : RecordReader) (requests : List String) : Prop where
  buffer : reader.buffer = []
  nextUrl : reader.nextUrl = none
  failure : ∃ earlier url e, requests = earlier ++ [url] ∧ r.page earlier url = .error e

/-- A list that was given up is not read to its end. -/
theorem Spent.not_exhausted {r : Repository} {reader : RecordReader} {requests : List String}
    (h : Spent r reader requests) (before : List String) : ¬r.Exhausted before requests := by
  rintro ⟨earlier, url, hrequests, -, hlast⟩
  obtain ⟨earlier', url', e, hrequests', hfailed⟩ := h.failure
  obtain ⟨rfl, hurl⟩ := List.append_inj' (hrequests.symm.trans hrequests') rfl
  obtain rfl : url = url' := List.singleton_inj.mp hurl
  rcases hlast with hnone | ⟨page, hpage, -⟩
  · rw [hfailed] at hnone
    cases hnone
  · rw [hfailed] at hpage
    cases hpage

/-- What a call of a reader that has not failed may come to. The list goes on after records
and where a limit was reached, it is at its end when the call says so, and a failure gives it
up. -/
inductive Comes (r : Repository) (before : List String) {α : Type} :
    Except Interruption (Option α) → RecordReader → List String → Prop
  | given {reader : RecordReader} {requests : List String}
      (pending : r.Pending reader.host before reader.nextUrl requests) (a : α) :
      Comes r before (.ok (some a)) reader requests
  | outOfPages {reader : RecordReader} {requests : List String}
      (pending : r.Pending reader.host before reader.nextUrl requests) :
      Comes r before (.error .outOfPages) reader requests
  | ended {reader : RecordReader} {requests : List String}
      (pending : r.Pending reader.host before reader.nextUrl requests)
      (exhausted : r.Exhausted before requests) : Comes r before (.ok none) reader requests
  | failed {reader : RecordReader} {requests : List String} {e : HarvestError}
      (spent : Spent r reader requests) :
      Comes r before (.error (.failed e)) reader requests

variable {r : Repository} {before requests : List String} {reader : RecordReader}

/-- How the records are handed out makes no difference. -/
theorem Comes.map {α β : Type} (f : α → β) {answer : Except Interruption (Option α)}
    (h : Comes r before answer reader requests) :
    Comes r before (answer.map (Option.map f)) reader requests := by
  cases h with
  | given pending a => exact .given pending (f a)
  | outOfPages pending => exact .outOfPages pending
  | ended pending exhausted => exact .ended pending exhausted
  | failed spent => exact .failed spent

section Request

variable (pending : r.Pending reader.host before reader.nextUrl requests)
  (hbuffer : reader.buffer = [])

include pending in
/-- What a response that can be read leads to is pending after it. -/
theorem pending_turnAt {url : String} {page? : Option RecordPage}
    (hpage : r.page requests url = .ok page?) :
    r.Pending reader.host before (reader.turnAt r requests url).nextUrl (requests ++ [url]) :=
  .response pending.prior hpage rfl

include hbuffer in
/-- The reader has no further page to ask for after one that cannot be read. -/
theorem spent_turnAt {url : String} {e : HarvestError}
    (hpage : r.page requests url = .error e) :
    Spent r (reader.turnAt r requests url) (requests ++ [url]) where
  buffer := hbuffer
  nextUrl := following_of_page?_eq_none (page?_of_error hpage)
  failure := ⟨requests, url, e, rfl, hpage⟩

include pending in
/-- Where nothing is pending the list has ended. -/
theorem comes_of_nextUrl_eq_none {α : Type} (hurl : reader.nextUrl = none) :
    Comes r before (.ok none : Except Interruption (Option α)) reader requests := by
  have hended := pending
  rw [hurl] at hended
  exact .ended pending hended.exhausted

include pending in
/-- It has ended where the repository says that no record matches. -/
theorem comes_of_page_eq_none {α : Type} {url : String} (hpage : r.page requests url = .ok none) :
    Comes r before (.ok none : Except Interruption (Option α)) (reader.turnAt r requests url)
      (requests ++ [url]) := by
  apply Comes.ended
  · exact pending_turnAt pending hpage
  · exact ⟨requests, url, rfl, pending.prior, .inl hpage⟩

end Request

/-- A call for a page says that the list has ended only when it has. -/
theorem readPage_comes (pending : r.Pending reader.host before reader.nextUrl requests) :
    let result := (reader.readPage r).run requests
    Comes r before (result.1.1.mapError .failed) result.1.2 result.2 := by
  cases hbuffer : reader.buffer with
  | cons record rest =>
      rw [run_readPage_cons hbuffer]
      apply Comes.given
      exact pending
  | nil =>
      cases hurl : reader.nextUrl with
      | none =>
          rw [run_readPage_none hbuffer hurl]
          exact comes_of_nextUrl_eq_none pending hurl
      | some url =>
          rw [run_readPage_some hbuffer hurl]
          cases hpage : r.page requests url with
          | error e =>
              rw [recordsAt_of_page?_eq_none (page?_of_error hpage)]
              exact .failed (spent_turnAt hbuffer hpage)
          | ok page? =>
              cases page? with
              | none =>
                  rw [recordsAt_of_page?_eq_none (page?_of_ok hpage)]
                  exact comes_of_page_eq_none pending hpage
              | some page => exact .given (pending_turnAt pending hpage) page.records

/-- A call for a record says that the list has ended only when it has, however many pages
without records it passes. -/
theorem nextRecord_comes (r : Repository) (before : List String) (limit : Nat)
    (reader : RecordReader) :
    ∀ {requests : List String}, r.Pending reader.host before reader.nextUrl requests →
      let result := (nextRecord r limit reader).run requests
      Comes r before result.1.1 result.1.2 result.2 := by
  induction limit, reader using nextRecord_induction with
  | buffered limit reader record rest hbuffer =>
      intro requests pending
      rw [run_nextRecord_cons hbuffer]
      apply Comes.given
      exact pending
  | stopped reader hbuffer =>
      intro requests pending
      rw [run_nextRecord_zero hbuffer]
      exact .outOfPages pending
  | ended limit reader hbuffer hurl =>
      intro requests pending
      rw [run_nextRecord_none hbuffer hurl]
      exact comes_of_nextUrl_eq_none pending hurl
  | requested limit reader url hbuffer hurl ih =>
      intro requests pending
      rw [run_nextRecord_some hbuffer hurl]
      cases hpage : r.page requests url with
      | error e => exact .failed (spent_turnAt hbuffer hpage)
      | ok page? =>
          cases page? with
          | none => exact comes_of_page_eq_none pending hpage
          | some page =>
              apply ih
              exact pending_turnAt pending hpage

/-- What any call of a reader that has not failed comes to. -/
theorem perform_comes (pending : r.Pending reader.host before reader.nextUrl requests)
    (limit : Nat) (call : Call) :
    let result := (reader.perform r limit call).run requests
    Comes r before result.1.1 result.1.2 result.2 := by
  cases call with
  | record => exact (nextRecord_comes r before limit reader pending).map fun record => [record]
  | page => exact readPage_comes pending

/-- A reader that gave up its list requests nothing more and answers as at the end. -/
theorem Spent.run_perform (h : Spent r reader requests) (limit : Nat) (call : Call) :
    (reader.perform r (limit + 1) call).run requests = ((.ok none, reader), requests) := by
  cases call with
  | record =>
      rw [perform, Session.run_bind, run_nextRecord_none h.buffer h.nextUrl]
      rfl
  | page =>
      rw [perform, Session.run_bind, run_readPage_none h.buffer h.nextUrl]
      rfl

/-- An answer that is no failure adds none to those before. -/
theorem failed_not_mem_append {answers : List Answer} {answer : Answer}
    (hanswers : ∀ e, .error (.failed e) ∉ answers) (hanswer : ∀ e, answer ≠ .error (.failed e))
    (e : HarvestError) : .error (.failed e) ∉ answers ++ [answer] := by
  intro hmem
  rcases List.mem_append.mp hmem with hmem | hmem
  · exact hanswers e hmem
  · exact hanswer e (List.mem_singleton.mp hmem).symm

/-- After any calls the list either goes on, and none of them has failed, or it was given up
by the one that failed. -/
theorem reading_pending_or_spent (limit : Nat)
    (pending : r.Pending reader.host before reader.nextUrl requests) (calls : List Call) :
    let s := reading r (limit + 1) reader requests calls
    (r.Pending s.reader.host before s.reader.nextUrl s.requests ∧
        ∀ e, .error (.failed e) ∉ s.answers) ∨
      (Spent r s.reader s.requests ∧ ∃ e, .error (.failed e) ∈ s.answers) := by
  induction calls using List.reverseRecOn with
  | nil =>
      refine .inl ⟨pending, ?_⟩
      intro e hmem
      cases hmem
  | append_singleton calls call ih =>
      rw [reading_append_singleton]
      rcases ih with ⟨hpending, hanswers⟩ | ⟨hspent, e, hmem⟩
      · have hcomes := perform_comes hpending (limit + 1) call
        rw [Reading.next]
        generalize (RecordReader.perform r (limit + 1) _ call).run _ = result at hcomes ⊢
        obtain ⟨⟨answer, reader'⟩, requests'⟩ := result
        cases hcomes with
        | given pending _ => exact .inl ⟨pending, failed_not_mem_append hanswers (by simp)⟩
        | outOfPages pending => exact .inl ⟨pending, failed_not_mem_append hanswers (by simp)⟩
        | ended pending _ => exact .inl ⟨pending, failed_not_mem_append hanswers (by simp)⟩
        | failed spent => exact .inr ⟨spent, _, List.mem_append_right _ List.mem_cons_self⟩
      · refine .inr ⟨?_, e, ?_⟩
        · rw [Reading.next, hspent.run_perform]
          exact hspent
        · exact List.mem_append_left _ hmem

/-- A reader at the beginning of a list has its first page before it. -/
theorem pending_of_start {address metadataPrefix : String} {since upTo : Option String}
    (h : start address metadataPrefix since upTo = .ok reader) (before : List String)
    (r : Repository) : r.Pending reader.host before reader.nextUrl before := by
  obtain ⟨url, -, rfl⟩ := exists_of_start h
  exact .beginning url

/-- A call that says that the list has ended is right exactly when no call before it failed.
After a failure every call says so, and nothing is requested any more, whatever remains of the
list and whatever the repository would answer. -/
theorem ended_iff_no_failure {r : Repository} {address metadataPrefix : String}
    {since upTo : Option String} {reader : RecordReader}
    (hstart : start address metadataPrefix since upTo = .ok reader) (limit : Nat)
    (before : List String) (calls : List Call) (call : Call) :
    let s := reading r (limit + 1) reader before calls
    let next := s.next r (limit + 1) call
    let answer := ((s.reader.perform r (limit + 1) call).run s.requests).1.1
    (answer = .ok none →
        (r.Exhausted before next.requests ↔ ∀ e, .error (.failed e) ∉ s.answers)) ∧
      ∀ e, .error (.failed e) ∈ s.answers →
        answer = .ok none ∧ next.reader = s.reader ∧ next.requests = s.requests := by
  intro s next answer
  rcases reading_pending_or_spent limit (pending_of_start hstart before r) calls with
    ⟨hpending, hanswers⟩ | ⟨hspent, e, hmem⟩
  · have hcomes : Comes r before answer next.reader next.requests :=
      perform_comes hpending (limit + 1) call
    refine ⟨fun hnone => ?_, fun e hmem => absurd hmem (hanswers e)⟩
    rw [hnone] at hcomes
    cases hcomes with
    | ended _ exhausted => exact iff_of_true exhausted hanswers
  · have hrun := hspent.run_perform limit call
    have hrequests : next.requests = s.requests := congrArg (·.2) hrun
    refine ⟨fun _ => ?_, fun _ _ => ⟨congrArg (·.1.1) hrun, congrArg (·.1.2) hrun, hrequests⟩⟩
    rw [hrequests]
    exact iff_of_false (hspent.not_exhausted before) fun hanswers => hanswers e hmem

/-- A repository with one record that is down at the first request and up at all others. -/
def interrupted : Repository where
  answer
    | [], _ => .error "down"
    | _ :: _, _ => .ok "<o><ListRecords><record/></ListRecords></o>"

def interruptedUrl : String := "a:?verb=ListRecords&metadataPrefix=p"

theorem start_interrupted :
    start "a:" "p" none none = .ok (beginning "a:" interruptedUrl) := by
  have hurl : listRecordsUrl "a:" "p" none none = .ok interruptedUrl := by decide +kernel
  exact start_of_listRecordsUrl hurl

/-- Asked for a second time, the repository is up and its list is read to its end. -/
theorem ended_iff_no_failure_interrupted :
    let s := reading interrupted 1 (beginning "a:" interruptedUrl) [interruptedUrl] [.page]
    start "a:" "p" none none = .ok (beginning "a:" interruptedUrl) ∧ s.handed.length = 1 ∧
      interrupted.Exhausted [interruptedUrl] (s.next interrupted 1 .page).requests := by
  intro s
  have hanswer : ((s.reader.perform interrupted 1 .page).run s.requests).1.1 = .ok none := by
    decide +kernel
  have hok : s.answers.all (·.isOk) = true := by decide +kernel
  refine ⟨start_interrupted, by decide +kernel, ?_⟩
  apply ((ended_iff_no_failure start_interrupted 0 _ [.page] .page).1 hanswer).mpr
  intro e hmem
  cases List.all_eq_true.mp hok _ hmem

/-- When the first request fails, the second call says that the list has ended, although the
record is there and the repository has not said anything yet. -/
theorem ended_after_failure_interrupted :
    let s := reading interrupted 1 (beginning "a:" interruptedUrl) [] [.record, .record]
    start "a:" "p" none none = .ok (beginning "a:" interruptedUrl) ∧
      s.answers = [.error (.failed (.fetch interruptedUrl "down")), .ok none] ∧
      s.requests = [interruptedUrl] ∧ ¬interrupted.Exhausted [] s.requests ∧
      (interrupted.recordsAt s.requests interruptedUrl).length = 1 := by
  have hspent : Spent interrupted
      ((beginning "a:" interruptedUrl).turnAt interrupted [] interruptedUrl)
      [interruptedUrl] := spent_turnAt rfl rfl
  exact ⟨start_interrupted, rfl, rfl, hspent.not_exhausted [], by decide +kernel⟩

end RecordReader

end MetadataHarvest
