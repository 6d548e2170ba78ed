import MetadataHarvest.Proofs.Protocol.Request
import MetadataHarvest.Proofs.RecordReader.Reading

/-!
# What a reader hands out

A list of records is described here by the responses of a repository alone: which elements of a
response are its records, with which token it goes on, and where it ends. A reader of the list
hands out the records so described, whatever it is asked for and in whatever order.

## Implementation notes

An address has one response, so a listing is determined by the address at which it begins. It says
nothing about readers, and only its last lemmas compare it with the trail that readers follow.
-/

namespace MetadataHarvest

open Markup Protocol

namespace Protocol

/-- A response without an error, whose first list of records is `list`. -/
structure HoldsList (root list : Element) : Prop where
  noError : ∀ e ∈ root.children, e.localName ≠ "error"
  first : root.children.find? (·.localName = "ListRecords") = some list

/-- The records of a list, in document order. -/
def recordsOf (list : Element) : List Element := list.children.filter (·.localName = "record")

/-- The resumption tokens of a list, in document order. -/
def tokensOf (list : Element) : List Element :=
  list.children.filter (·.localName = "resumptionToken")

/-- A list goes on with the last text of its resumption tokens that is not empty. -/
structure GoesOn (list : Element) (token : String) : Prop where
  ne_empty : token ≠ ""
  last : ∃ earlier e later, tokensOf list = earlier ++ e :: later ∧ e.text = token ∧
    ∀ e ∈ later, e.text = ""

/-- A list ends when no resumption token of it has a text. -/
def Ends (list : Element) : Prop := ∀ e ∈ tokensOf list, e.text = ""

end Protocol

namespace Repository

/-- The response at `url` is a document with this root. -/
def AnswersWith (r : Repository) (url : String) (root : Element) : Prop :=
  ∃ body, r.answer [] url = .ok body ∧ Element.parse body = .ok root

/-- Why no list of records is had from `url`. -/
inductive Fails (r : Repository) (url : String) : HarvestError → Prop
  | unanswered {reason : String} (answer : r.answer [] url = .error reason) :
      Fails r url (.fetch url reason)
  | malformed {body : String} {fault : Fault} (answer : r.answer [] url = .ok body)
      (parse : Element.parse body = .error fault) : Fails r url (.markup fault)
  | refused {root e : Element} (answer : r.AnswersWith url root)
      (first : root.children.find? (·.localName = "error") = some e)
      (code : e.attribute? "code" ≠ some "noRecordsMatch") :
      Fails r url (.protocol ((e.attribute? "code").getD "") e.text)
  | noList {root : Element} (answer : r.AnswersWith url root)
      (noError : ∀ e ∈ root.children, e.localName ≠ "error")
      (none : ∀ e ∈ root.children, e.localName ≠ "ListRecords") :
      Fails r url (.missingElement "ListRecords")

/-- A page of a list with its address. -/
structure ListedPage where
  url : String
  records : List Element

/-- The pages of a list from an address on. Each token leads to the address which asks for it, and
the last page has none, says that no record matches, or fails. -/
inductive Listing (r : Repository) (host : String) : String → List ListedPage → Prop
  | further {url token : String} {root list : Element} {pages : List ListedPage}
      (answer : r.AnswersWith url root) (holds : HoldsList root list) (goesOn : GoesOn list token)
      (rest : Listing r host (host ++ "?" ++ pairsQuery (furtherPairs token)) pages) :
      Listing r host url (⟨url, recordsOf list⟩ :: pages)
  | last {url : String} {root list : Element} (answer : r.AnswersWith url root)
      (holds : HoldsList root list) (ends : Ends list) :
      Listing r host url [⟨url, recordsOf list⟩]
  | noMatch {url : String} {root e : Element} (answer : r.AnswersWith url root)
      (first : root.children.find? (·.localName = "error") = some e)
      (code : e.attribute? "code" = some "noRecordsMatch") : Listing r host url [⟨url, []⟩]
  | failing {url : String} {e : HarvestError} (fails : r.Fails url e) :
      Listing r host url [⟨url, []⟩]

end Repository

theorem Markup.Element.childLocal?_eq_none_iff {e : Element} {name : String} :
    e.childLocal? name = none ↔ ∀ child ∈ e.children, child.localName ≠ name := by
  simp [Element.childLocal?]

namespace Protocol.RecordPage

variable {root list e : Element} {token : String}

theorem ofResponse_of_holdsList (h : HoldsList root list) :
    ofResponse root = .ok (some (ofList list)) := by
  have herror : root.childLocal? "error" = none := Element.childLocal?_eq_none_iff.mpr h.noError
  have hlist : root.childLocal? "ListRecords" = some list := h.first
  simp only [ofResponse, herror, hlist]

theorem ofResponse_of_noMatch (first : root.childLocal? "error" = some e)
    (code : e.attribute? "code" = some "noRecordsMatch") : ofResponse root = .ok none := by
  simp only [ofResponse, first, code, Option.getD_some, noRecordsMatch, if_true]

theorem ofResponse_of_refused (first : root.childLocal? "error" = some e)
    (code : e.attribute? "code" ≠ some "noRecordsMatch") :
    ofResponse root = .error (.protocol ((e.attribute? "code").getD "") e.text) := by
  have hcode : (e.attribute? "code").getD "" ≠ noRecordsMatch := by
    cases h : e.attribute? "code" with
    | none => decide
    | some code' =>
        rintro rfl
        exact code h
  simp only [ofResponse, first, if_neg hcode]

theorem ofResponse_of_noList (noError : ∀ e ∈ root.children, e.localName ≠ "error")
    (none : ∀ e ∈ root.children, e.localName ≠ "ListRecords") :
    ofResponse root = .error (.missingElement "ListRecords") := by
  simp only [ofResponse, Element.childLocal?_eq_none_iff.mpr noError,
    Element.childLocal?_eq_none_iff.mpr none]

/-- The token of a page is the one with which its list goes on. -/
theorem token_of_goesOn (h : GoesOn list token) : (ofList list).token = some token := by
  obtain ⟨earlier, e, later, htokens, rfl, hlater⟩ := h.last
  have htokens' : list.children.filter (·.localName = "resumptionToken") =
      earlier ++ e :: later := htokens
  have hnone : later.filterMap (fun e => if e.text.isEmpty then none else some e.text) = [] := by
    rw [List.filterMap_eq_nil_iff]
    intro e he
    simp [hlater e he]
  have hshown : e.text.isEmpty = false := by simpa using h.ne_empty
  simp only [ofList, lastSome?, htokens', List.filterMap_append, List.filterMap_cons, hshown,
    hnone, Bool.false_eq_true, if_false, List.getLast?_concat]

theorem token_of_ends (h : Ends list) : (ofList list).token = none := by
  have hnone : (list.children.filter (·.localName = "resumptionToken")).filterMap
      (fun e => if e.text.isEmpty then none else some e.text) = [] := by
    rw [List.filterMap_eq_nil_iff]
    intro e he
    simp [h e he]
  simp only [ofList, lastSome?, hnone, List.getLast?_nil]

end Protocol.RecordPage

namespace Repository

variable {r : Repository} {host url token : String} {root list : Element}
  {pages : List ListedPage}

theorem page_of_answersWith (answer : r.AnswersWith url root) :
    r.page [] url = RecordPage.ofResponse root := by
  obtain ⟨body, hanswer, hparse⟩ := answer
  rw [page_of_answer hanswer, RecordPage.read, hparse]

theorem page?_of_holdsList (answer : r.AnswersWith url root) (holds : HoldsList root list) :
    r.page? [] url = some (RecordPage.ofList list) :=
  page?_of_ok ((page_of_answersWith answer).trans (RecordPage.ofResponse_of_holdsList holds))

/-- A failure is one to read the page. -/
theorem Fails.page_eq {e : HarvestError} (fails : r.Fails url e) : r.page [] url = .error e := by
  cases fails with
  | unanswered answer =>
      apply page_eq_error_of_reply
      rw [reply, answer, mapError_error]
  | malformed answer parse => rw [page_of_answer answer, RecordPage.read, parse]
  | refused answer first code =>
      exact (page_of_answersWith answer).trans (RecordPage.ofResponse_of_refused first code)
  | noList answer noError none =>
      exact (page_of_answersWith answer).trans (RecordPage.ofResponse_of_noList noError none)

theorem following_of_goesOn (answer : r.AnswersWith url root) (holds : HoldsList root list)
    (goesOn : GoesOn list token) :
    r.following host [] url = some (host ++ "?" ++ pairsQuery (furtherPairs token)) := by
  rw [following, page?_of_holdsList answer holds, Option.bind_some,
    RecordPage.token_of_goesOn goesOn, Option.map_some, Request.url_eq, Request.query_resumption]

theorem following_of_ends (answer : r.AnswersWith url root) (holds : HoldsList root list)
    (ends : Ends list) : r.following host [] url = none := by
  rw [following, page?_of_holdsList answer holds, Option.bind_some, RecordPage.token_of_ends ends,
    Option.map_none]

/-- Where no page is read a trail stops. -/
theorem trail_of_page?_eq_none (h : r.page? [] url = none) : r.Trail host (some url) [url] := by
  apply Trail.turn
  rw [following_of_page?_eq_none h]
  exact .stop

/-- A listing goes along the trail from its address. -/
theorem Listing.trail (listing : r.Listing host url pages) :
    r.Trail host (some url) (pages.map (·.url)) := by
  induction listing with
  | further answer holds goesOn rest ih =>
      apply Trail.turn
      rw [following_of_goesOn answer holds goesOn]
      exact ih
  | last answer holds ends =>
      apply Trail.turn
      rw [following_of_ends answer holds ends]
      exact .stop
  | noMatch answer first code =>
      apply trail_of_page?_eq_none
      apply page?_of_ok
      rw [page_of_answersWith answer, RecordPage.ofResponse_of_noMatch first code]
  | failing fails => exact trail_of_page?_eq_none (page?_of_error fails.page_eq)

/-- The records of a listing are those that are read at its addresses. -/
theorem Listing.recordsAt_eq (listing : r.Listing host url pages) :
    ∀ page ∈ pages, r.recordsAt [] page.url = page.records := by
  induction listing with
  | further answer holds goesOn rest ih =>
      rw [List.forall_mem_cons]
      exact ⟨recordsAt_of_page? (page?_of_holdsList answer holds), ih⟩
  | last answer holds ends =>
      rw [List.forall_mem_singleton]
      exact recordsAt_of_page? (page?_of_holdsList answer holds)
  | noMatch answer first code =>
      rw [List.forall_mem_singleton]
      apply recordsAt_of_page?_eq_none
      apply page?_of_ok
      rw [page_of_answersWith answer, RecordPage.ofResponse_of_noMatch first code]
  | failing fails =>
      rw [List.forall_mem_singleton]
      exact recordsAt_of_page?_eq_none (page?_of_error fails.page_eq)

theorem fails_of_ofResponse_eq {e : HarvestError} (answer : r.AnswersWith url root)
    (h : RecordPage.ofResponse root = .error e) : r.Fails url e := by
  cases hfirst : root.childLocal? "error" with
  | some error =>
      by_cases hcode : error.attribute? "code" = some "noRecordsMatch"
      · rw [RecordPage.ofResponse_of_noMatch hfirst hcode] at h
        cases h
      · rw [RecordPage.ofResponse_of_refused hfirst hcode] at h
        obtain rfl := Except.error.inj h
        exact .refused answer hfirst hcode
  | none =>
      have hnoError := Element.childLocal?_eq_none_iff.mp hfirst
      cases hlist : root.childLocal? "ListRecords" with
      | some list =>
          rw [RecordPage.ofResponse_of_holdsList ⟨hnoError, hlist⟩] at h
          cases h
      | none =>
          have hnoList := Element.childLocal?_eq_none_iff.mp hlist
          rw [RecordPage.ofResponse_of_noList hnoError hnoList] at h
          obtain rfl := Except.error.inj h
          exact .noList answer hnoError hnoList

/-- A page that cannot be read fails. -/
theorem fails_of_page_eq {e : HarvestError} (h : r.page [] url = .error e) : r.Fails url e := by
  cases hanswer : r.answer [] url with
  | error reason =>
      have hreply : r.reply [] url = .error (.fetch url reason) := by
        rw [reply, hanswer, mapError_error]
      obtain rfl := Except.error.inj ((page_eq_error_of_reply hreply).symm.trans h)
      exact .unanswered hanswer
  | ok body =>
      rw [page_of_answer hanswer, RecordPage.read] at h
      cases hparse : Element.parse body with
      | error fault =>
          rw [hparse] at h
          obtain rfl := Except.error.inj h
          exact .malformed hanswer hparse
      | ok root =>
          rw [hparse] at h
          exact fails_of_ofResponse_eq ⟨body, hanswer, hparse⟩ h

end Repository

namespace RecordReader

open Repository

variable {r : Repository} {address metadataPrefix : String} {since upTo : Option String}
  {pages : List ListedPage}

/-- The addresses that were requested first are those of the first pages. -/
theorem exists_begun {requested : List String} (h : requested <+: pages.map (·.url)) :
    ∃ begun, begun <+: pages ∧ requested = begun.map (·.url) := by
  refine ⟨pages.take requested.length, List.take_prefix _ _, ?_⟩
  rw [List.map_take]
  exact List.prefix_iff_eq_take.mp h

/-- Any calls of a reader of a list hand out the records of its pages from the first on, each once
and in document order. They are counted, and so are the responses; the addresses of the pages are
requested from the first on, each once. A call for a record hands out one of them, and a call for a
page all that is left of the page that was begun, or all of the next one. A call reports a failure
only where a page fails, and says that the list has ended, or fails, only when all records of the
list were handed out before. -/
theorem reading_of_listing (stable : r.Stable) (haddress : Text.trimmed address ≠ "")
    (hname : Text.trimmed metadataPrefix ≠ "")
    (listing : r.Listing (Text.trimmed address) (Text.trimmed address ++ "?" ++
      pairsQuery (listPairs (Text.trimmed metadataPrefix) since upTo)) pages) :
    ∃ reader, start address metadataPrefix since upTo = .ok reader ∧
      ∀ (limit : Nat) (before : List String) (calls : List Call), pages.length < limit →
        let s := reading r limit reader before calls
        let records := pages.flatMap (·.records)
        (∃ requested, s.requests = before ++ requested ∧ requested <+: pages.map (·.url) ∧
          requested.Nodup ∧
          s.reader.pagesRead = requested.countP fun url => (r.answer [] url).isOk) ∧
        s.handed <+: records ∧
        s.reader.recordsRead = s.handed.length ∧
        (∀ answer ∈ s.answers, answer ≠ .error .outOfPages) ∧
        ∀ call, let result := (s.reader.perform r limit call).run s.requests
          (call = .record → ∀ given, result.1.1 = .ok (some given) → given.length = 1) ∧
          (call = .page → ∀ given, result.1.1 = .ok (some given) →
            (∃ begun, begun <+: pages ∧ result.2 = before ++ begun.map (·.url) ∧
              s.handed ++ given = begun.flatMap (·.records)) ∧
            (given = [] → result.2 ≠ s.requests)) ∧
          (∀ e, result.1.1 = .error e →
            ∃ cause, e = .failed cause ∧ ∃ page ∈ pages, r.Fails page.url cause) ∧
          ((∀ given, result.1.1 ≠ .ok (some given)) → s.handed = records) := by
  have hurl := listRecordsUrl_eq (Text.nonBlank?_of_shown haddress)
    (Text.nonBlank?_of_shown hname) since upTo
  refine ⟨_, start_of_listRecordsUrl hurl, fun limit before calls hlimit => ?_⟩
  have hresponds : r.responds [] = fun url => (r.answer [] url).isOk := by
    funext url
    rw [responds, reply]
    cases r.answer [] url <;> rfl
  have hflat {begun : List ListedPage} (h : begun <+: pages) :
      (begun.map (·.url)).flatMap (r.recordsAt []) = begun.flatMap (·.records) := by
    rw [List.flatMap_map]
    exact List.flatMap_congr fun page hpage => listing.recordsAt_eq page (h.subset hpage)
  have hlimit' : (pages.map (·.url)).length < limit := by rwa [List.length_map]
  obtain ⟨hrequests, hhanded, hcount, hanswers⟩ :=
    reading_of_trail stable listing.trail hlimit' before calls
  rw [hflat List.prefix_rfl] at hhanded
  rw [hresponds] at hrequests
  refine ⟨hrequests, hhanded, hcount, hanswers, fun call => ?_⟩
  obtain ⟨hrecord, hpage, herror, hend⟩ :=
    perform_of_trail stable listing.trail hlimit' before calls call
  rw [hflat List.prefix_rfl] at hend
  refine ⟨hrecord, fun hcall given hgiven => ?_, fun e he => ?_, hend⟩
  · obtain ⟨⟨requested, hafter, hprefix, hrecords⟩, hempty⟩ := hpage hcall given hgiven
    obtain ⟨begun, hbegun, rfl⟩ := exists_begun hprefix
    rw [hflat hbegun] at hrecords
    exact ⟨⟨begun, hbegun, hafter, hrecords⟩, hempty⟩
  · obtain ⟨cause, hcause, url, hmem, hfails⟩ := herror e he
    obtain ⟨page, hpage', rfl⟩ := List.mem_map.mp hmem
    exact ⟨cause, hcause, page, hpage', fails_of_page_eq hfails⟩

/-- An element with a text alone. -/
def leaf (name text : String) : Element := ⟨name, [], .ofNodes [.text text]⟩

/-- A list whose last token is blank. -/
def firstList : Element :=
  ⟨"ListRecords", [], .ofNodes [.element (leaf "record" "1"), .element (leaf "resumptionToken" "w"),
    .element (leaf "resumptionToken" "x"), .element (leaf "record" "2"),
    .element ⟨"resumptionToken", [], .nil⟩]⟩

/-- A list without records. -/
def secondList : Element :=
  ⟨"ListRecords", [], .ofNodes [.element (leaf "resumptionToken" "y")]⟩

/-- A repository that gives these lists and no other page. -/
def uneven : Repository :=
  ofAnswers
    [("a:?verb=ListRecords&metadataPrefix=p",
        "<o><ListRecords><record>1</record><resumptionToken>w</resumptionToken>"
          ++ "<resumptionToken>x</resumptionToken><record>2</record><resumptionToken/>"
          ++ "</ListRecords></o>"),
      ("a:?verb=ListRecords&resumptionToken=x",
        "<o><ListRecords><resumptionToken>y</resumptionToken></ListRecords></o>")]
    "down"

def unevenPages : List ListedPage :=
  [⟨"a:?verb=ListRecords&metadataPrefix=p", [leaf "record" "1", leaf "record" "2"]⟩,
    ⟨"a:?verb=ListRecords&resumptionToken=x", []⟩, ⟨"a:?verb=ListRecords&resumptionToken=y", []⟩]

theorem goesOn_firstList : GoesOn firstList "x" where
  ne_empty := by decide
  last := ⟨[leaf "resumptionToken" "w"], leaf "resumptionToken" "x",
    [⟨"resumptionToken", [], .nil⟩], by decide, by decide, by decide⟩

theorem goesOn_secondList : GoesOn secondList "y" where
  ne_empty := by decide
  last := ⟨[], leaf "resumptionToken" "y", [], by decide, by decide, by decide⟩

theorem listing_uneven :
    uneven.Listing "a:" "a:?verb=ListRecords&metadataPrefix=p" unevenPages := by
  have hfirst : uneven.AnswersWith "a:?verb=ListRecords&metadataPrefix=p"
      ⟨"o", [], .ofNodes [.element firstList]⟩ := ⟨_, rfl, by decide +kernel⟩
  have hsecond : uneven.AnswersWith "a:?verb=ListRecords&resumptionToken=x"
      ⟨"o", [], .ofNodes [.element secondList]⟩ := ⟨_, rfl, by decide +kernel⟩
  have hx : "a:" ++ "?" ++ pairsQuery (furtherPairs "x") =
      "a:?verb=ListRecords&resumptionToken=x" := by decide +kernel
  have hy : "a:" ++ "?" ++ pairsQuery (furtherPairs "y") =
      "a:?verb=ListRecords&resumptionToken=y" := by decide +kernel
  refine .further hfirst ⟨by decide, rfl⟩ goesOn_firstList ?_
  rw [hx]
  refine .further hsecond ⟨by decide, rfl⟩ goesOn_secondList ?_
  rw [hy]
  exact .failing (.unanswered rfl)

/-- A mixture of calls on that list. -/
theorem reading_of_listing_uneven :
    ∃ reader, start "a:" "p" none none = .ok reader ∧
      let s := reading uneven 4 reader [] [.record, .page, .page]
      s.handed <+: [leaf "record" "1", leaf "record" "2"] ∧
      s.reader.recordsRead = s.handed.length ∧
      let result := (s.reader.perform uneven 4 .page).run s.requests
      (∀ given, result.1.1 ≠ .ok (some given)) →
        s.handed = [leaf "record" "1", leaf "record" "2"] := by
  have htrimmed : Text.trimmed "a:" = "a:" := by decide +kernel
  have hname : Text.trimmed "p" = "p" := by decide +kernel
  have hurl : "a:" ++ "?" ++ pairsQuery (listPairs "p" none none) =
      "a:?verb=ListRecords&metadataPrefix=p" := by decide +kernel
  have hlisting : uneven.Listing (Text.trimmed "a:") (Text.trimmed "a:" ++ "?" ++
      pairsQuery (listPairs (Text.trimmed "p") none none)) unevenPages := by
    rw [htrimmed, hname, hurl]
    exact listing_uneven
  obtain ⟨reader, hstart, h⟩ := reading_of_listing (stable_ofAnswers _ _)
    (by rw [htrimmed]; decide) (by rw [hname]; decide) hlisting
  obtain ⟨-, hhanded, hcount, -, hcall⟩ := h 4 [] [.record, .page, .page] (by decide)
  obtain ⟨-, -, -, hend⟩ := hcall .page
  exact ⟨reader, hstart, hhanded, hcount, hend⟩

end RecordReader

end MetadataHarvest
