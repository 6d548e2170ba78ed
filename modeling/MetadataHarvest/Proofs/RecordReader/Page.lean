import MetadataHarvest.RecordReader
import MetadataHarvest.Proofs.Repository.Requests

/-!
# One page

What a request for a page gives depends on the reply alone: a page, the end of the list, or
a failure. A page that was not read leads nowhere, so a reader that failed has no further
page to ask for. No failure to read a page is one of the configuration.

## Implementation notes

What stands at an address is said after given requests, since a repository may change. For
one that does not, the requests before make no difference, and the lemmas on chains of pages
take none.
-/

namespace MetadataHarvest

open Markup Protocol

namespace Repository

/-- What stands at `url`: a page, none where no record matches, or a failure. -/
def page (r : Repository) (before : List String) (url : String) :
    Except HarvestError (Option RecordPage) :=
  (r.reply before url).bind RecordPage.read

/-- The page at `url`, where one could be read. -/
def page? (r : Repository) (before : List String) (url : String) : Option RecordPage :=
  (r.page before url).toOption.join

/-- The records of the page at `url`. -/
def recordsAt (r : Repository) (before : List String) (url : String) : List Element :=
  ((r.page? before url).map (·.records)).getD []

/-- The failure to read a page at `url`. -/
def failureAt (r : Repository) (before : List String) (url : String) : Option HarvestError :=
  match r.page before url with
  | .error e => some e
  | .ok _ => none

/-- Where the token of the page at `url` leads to. -/
def following (r : Repository) (host : String) (before : List String) (url : String) :
    Option String :=
  ((r.page? before url).bind (·.token)).map fun token => (Request.resumption token).url host

/-- Whether there is a response at `url`, whatever it holds. -/
def responds (r : Repository) (before : List String) (url : String) : Bool :=
  (r.reply before url).isOk

variable {r : Repository} {host : String} {before : List String} {url : String}

theorem page_eq_error_of_reply {e : HarvestError} (h : r.reply before url = .error e) :
    r.page before url = .error e := by
  rw [page, h]
  rfl

/-- What stands at an address is what the answer says. -/
theorem page_of_answer {body : String} (h : r.answer before url = .ok body) :
    r.page before url = RecordPage.read body := by
  rw [page, reply, h]
  rfl

/-- Where no page was read there is no record and no further page. -/
theorem recordsAt_of_page?_eq_none (h : r.page? before url = none) :
    r.recordsAt before url = [] := by
  simp only [recordsAt, h, Option.map_none, Option.getD_none]

theorem following_of_page?_eq_none (h : r.page? before url = none) :
    r.following host before url = none := by
  simp only [following, h, Option.bind_none, Option.map_none]

theorem page?_of_error {e : HarvestError} (h : r.page before url = .error e) :
    r.page? before url = none := by
  simp [page?, h, Except.toOption]

theorem page?_of_ok {p : Option RecordPage} (h : r.page before url = .ok p) :
    r.page? before url = p := by
  simp [page?, h, Except.toOption]

theorem page_of_page? {p : RecordPage} (h : r.page? before url = some p) :
    r.page before url = .ok (some p) := by
  cases hpage : r.page before url with
  | error e =>
      rw [page?_of_error hpage] at h
      cases h
  | ok p? =>
      rw [page?_of_ok hpage] at h
      rw [h]

theorem recordsAt_of_page? {p : RecordPage} (h : r.page? before url = some p) :
    r.recordsAt before url = p.records := by
  simp only [recordsAt, h, Option.map_some, Option.getD_some]

theorem page_of_failureAt {e : HarvestError} (h : r.failureAt before url = some e) :
    r.page before url = .error e := by
  unfold failureAt at h
  split at h
  · next hpage =>
      obtain rfl := Option.some.inj h
      exact hpage
  · cases h

end Repository

namespace RecordPage

/-- Reading a response never fails for the configuration. -/
theorem read_ne_configuration (body : String) (cause : ConfigurationError) :
    RecordPage.read body ≠ .error (.configuration cause) := by
  intro h
  unfold RecordPage.read at h
  split at h
  · simp at h
  · unfold RecordPage.ofResponse at h
    split at h
    · dsimp only at h
      split at h
      · cases h
      · simp at h
    · split at h
      · simp at h
      · cases h

end RecordPage

namespace Repository

/-- Nor does a request for a page. -/
theorem page_ne_configuration (r : Repository) (before : List String) (url : String)
    (cause : ConfigurationError) : r.page before url ≠ .error (.configuration cause) := by
  unfold page reply
  cases r.answer before url with
  | error reason =>
      intro h
      simp [Except.bind] at h
  | ok body => exact RecordPage.read_ne_configuration body cause

end Repository

namespace RecordReader

/-- The reader after a request for the page at `url`, whose records are not handed out. -/
def turnAt (reader : RecordReader) (r : Repository) (before : List String) (url : String) :
    RecordReader :=
  { reader with
    nextUrl := r.following reader.host before url
    pagesRead := reader.pagesRead + (r.responds before url).toNat
    listSize := ((r.page? before url).bind (·.listSize)).orElse fun _ => reader.listSize }

@[simp] theorem host_turnAt (reader : RecordReader) (r : Repository) (before : List String)
    (url : String) : (reader.turnAt r before url).host = reader.host := rfl

@[simp] theorem nextUrl_turnAt (reader : RecordReader) (r : Repository) (before : List String)
    (url : String) :
    (reader.turnAt r before url).nextUrl = r.following reader.host before url := rfl

@[simp] theorem buffer_turnAt (reader : RecordReader) (r : Repository) (before : List String)
    (url : String) : (reader.turnAt r before url).buffer = reader.buffer := rfl

@[simp] theorem pagesRead_turnAt (reader : RecordReader) (r : Repository)
    (before : List String) (url : String) :
    (reader.turnAt r before url).pagesRead =
      reader.pagesRead + (r.responds before url).toNat := rfl

@[simp] theorem recordsRead_turnAt (reader : RecordReader) (r : Repository)
    (before : List String) (url : String) :
    (reader.turnAt r before url).recordsRead = reader.recordsRead := rfl

/-- With no page to ask for, nothing is requested and the list has ended. -/
theorem run_fetchPage_none {reader : RecordReader} (h : reader.nextUrl = none)
    (r : Repository) (before : List String) :
    (reader.fetchPage r).run before = ((.ok none, reader), before) := by
  simp only [fetchPage, h]
  rfl

/-- A reader with no further page takes the next one from the token of a response. -/
theorem receive_eq (reader : RecordReader) (h : reader.nextUrl = none) (body : String) :
    let page? := (RecordPage.read body).toOption.join
    reader.receive body =
      ((RecordPage.read body).map (Option.map (·.records)),
        { reader with
          nextUrl := (page?.bind (·.token)).map fun token =>
            (Request.resumption token).url reader.host
          pagesRead := reader.pagesRead + 1
          listSize := (page?.bind (·.listSize)).orElse fun _ => reader.listSize }) := by
  obtain ⟨host, nextUrl, buffer, pagesRead, recordsRead, listSize⟩ := reader
  obtain rfl : nextUrl = none := h
  unfold receive
  cases RecordPage.read body with
  | error e => rfl
  | ok p =>
      cases p with
      | none => rfl
      | some page => rfl

/-- A page is one request, and its token alone says what to ask for next. -/
theorem run_fetchPage_some {reader : RecordReader} {url : String}
    (h : reader.nextUrl = some url) (r : Repository) (before : List String) :
    (reader.fetchPage r).run before =
      (((r.page before url).map (Option.map (·.records)), reader.turnAt r before url),
        before ++ [url]) := by
  simp only [fetchPage, h, StateT.run_bind, Repository.run_fetch]
  cases hreply : r.reply before url with
  | error e =>
      have hpage := Repository.page_eq_error_of_reply hreply
      simp only [turnAt, Repository.following, Repository.page?_of_error hpage, hpage,
        Repository.responds, hreply]
      rfl
  | ok body =>
      have hpage : r.page before url = RecordPage.read body := by
        rw [Repository.page, hreply]
        rfl
      have hreceive := receive_eq { reader with nextUrl := none } rfl body
      simp only [turnAt, Repository.following, Repository.page?, hpage, Repository.responds,
        hreply]
      exact congrArg (fun result => (result, before ++ [url])) hreceive

@[simp] theorem count_nil (reader : RecordReader) : reader.count [] = reader := rfl

/-- The rest of a page that was begun is handed out without a request. -/
theorem run_readPage_cons {reader : RecordReader} {record : Element} {rest : List Element}
    (hbuffer : reader.buffer = record :: rest) (r : Repository) (before : List String) :
    (reader.readPage r).run before =
      ((.ok (some (record :: rest)), ({ reader with buffer := [] }).count (record :: rest)),
        before) := by
  simp only [readPage, hbuffer]
  rfl

theorem run_readPage_none {reader : RecordReader} (hbuffer : reader.buffer = [])
    (h : reader.nextUrl = none) (r : Repository) (before : List String) :
    (reader.readPage r).run before = ((.ok none, reader), before) := by
  simp only [readPage, hbuffer, Session.run_bind, run_fetchPage_none h]
  rfl

/-- A page that was not begun is requested, and all its records are handed out. -/
theorem run_readPage_some {reader : RecordReader} {url : String} (hbuffer : reader.buffer = [])
    (h : reader.nextUrl = some url) (r : Repository) (before : List String) :
    (reader.readPage r).run before =
      (((r.page before url).map (Option.map (·.records)),
        (reader.turnAt r before url).count (r.recordsAt before url)), before ++ [url]) := by
  simp only [readPage, hbuffer, Session.run_bind, run_fetchPage_some h]
  cases hpage : r.page before url with
  | error e =>
      rw [Repository.recordsAt_of_page?_eq_none (Repository.page?_of_error hpage), count_nil]
      rfl
  | ok page? =>
      cases page? with
      | none =>
          rw [Repository.recordsAt_of_page?_eq_none (Repository.page?_of_ok hpage), count_nil]
          rfl
      | some page =>
          simp only [Repository.recordsAt, Repository.page?_of_ok hpage]
          rfl

/-- A record in the buffer is handed out without a request. -/
theorem run_nextRecord_cons {reader : RecordReader} {record : Element} {rest : List Element}
    (hbuffer : reader.buffer = record :: rest) (r : Repository) (limit : Nat)
    (before : List String) :
    (nextRecord r limit reader).run before =
      ((.ok (some record), ({ reader with buffer := rest }).count [record]), before) := by
  unfold nextRecord
  simp only [hbuffer]
  rfl

theorem run_nextRecord_zero {reader : RecordReader} (hbuffer : reader.buffer = [])
    (r : Repository) (before : List String) :
    (nextRecord r 0 reader).run before = ((.error .outOfPages, reader), before) := by
  simp only [nextRecord, hbuffer]
  rfl

/-- With no page to ask for, the list of records has ended. -/
theorem run_nextRecord_none {reader : RecordReader} (hbuffer : reader.buffer = [])
    (h : reader.nextUrl = none) (r : Repository) (limit : Nat) (before : List String) :
    (nextRecord r (limit + 1) reader).run before = ((.ok none, reader), before) := by
  simp only [nextRecord, hbuffer, Session.run_bind, run_fetchPage_none h]
  rfl

/-- With nothing in the buffer a page is requested, and the next record is sought in it. -/
theorem run_nextRecord_some {reader : RecordReader} {url : String}
    (hbuffer : reader.buffer = []) (h : reader.nextUrl = some url) (r : Repository)
    (limit : Nat) (before : List String) :
    (nextRecord r (limit + 1) reader).run before =
      match r.page before url with
      | .error e => ((.error (.failed e), reader.turnAt r before url), before ++ [url])
      | .ok none => ((.ok none, reader.turnAt r before url), before ++ [url])
      | .ok (some page) =>
        (nextRecord r limit { reader.turnAt r before url with buffer := page.records }).run
          (before ++ [url]) := by
  simp only [nextRecord, hbuffer, Session.run_bind, run_fetchPage_some h]
  cases r.page before url with
  | error e => rfl
  | ok page? =>
      cases page? with
      | none => rfl
      | some page => rfl

/-- What holds of calls for a record. A call finds a record in the buffer, has reached its
limit, has no page to ask for, or requests one and goes on with whatever reader that leaves. -/
@[elab_as_elim]
theorem nextRecord_induction {motive : Nat → RecordReader → Prop}
    (buffered : ∀ limit reader record rest, reader.buffer = record :: rest →
      motive limit reader)
    (stopped : ∀ reader, reader.buffer = [] → motive 0 reader)
    (ended : ∀ limit reader, reader.buffer = [] → reader.nextUrl = none →
      motive (limit + 1) reader)
    (requested : ∀ limit reader url, reader.buffer = [] → reader.nextUrl = some url →
      (∀ next, motive limit next) → motive (limit + 1) reader)
    (limit : Nat) (reader : RecordReader) : motive limit reader := by
  induction limit generalizing reader with
  | zero =>
      cases hbuffer : reader.buffer with
      | cons record rest => exact buffered 0 reader record rest hbuffer
      | nil => exact stopped reader hbuffer
  | succ limit ih =>
      cases hbuffer : reader.buffer with
      | cons record rest => exact buffered (limit + 1) reader record rest hbuffer
      | nil =>
          cases hurl : reader.nextUrl with
          | none => exact ended limit reader hbuffer hurl
          | some url => exact requested limit reader url hbuffer hurl ih

/-- No page fails to be read for the configuration. -/
theorem readPage_ne_configuration (reader : RecordReader) (r : Repository)
    (before : List String) (cause : ConfigurationError) :
    ((reader.readPage r).run before).1.1 ≠ .error (.configuration cause) := by
  cases hbuffer : reader.buffer with
  | cons record rest => simp [readPage, hbuffer]
  | nil =>
      cases hurl : reader.nextUrl with
      | none =>
          rw [run_readPage_none hbuffer hurl]
          simp
      | some url =>
          rw [run_readPage_some hbuffer hurl]
          have hne := r.page_ne_configuration before url cause
          cases hpage : r.page before url with
          | error e => simpa [Except.map, hpage] using hne
          | ok page? => simp [Except.map]

end RecordReader

end MetadataHarvest
