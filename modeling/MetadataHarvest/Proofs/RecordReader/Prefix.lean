import MetadataHarvest.Proofs.Record.Prefix
import MetadataHarvest.Proofs.RecordReader.Page

/-!
# Responses with other prefixes

A response is read as it is under other prefixes of the root, its children and the children of the
list: it fails alike, or it has the same token, the same size of the list, and records that
correspond one by one. So two repositories whose answers differ in prefixes lead a reader to the
same addresses.
-/

namespace MetadataHarvest

open Markup

/-- The same failure in both, nothing in both, or results that `S` relates. -/
inductive Alike {α : Type} (S : α → α → Prop) :
    Except HarvestError (Option α) → Except HarvestError (Option α) → Prop
  | failed (e : HarvestError) : Alike S (.error e) (.error e)
  | ended : Alike S (.ok none) (.ok none)
  | found {a b : α} : S a b → Alike S (.ok (some a)) (.ok (some b))

theorem Alike.refl {α : Type} {S : α → α → Prop} (hS : ∀ a, S a a)
    (outcome : Except HarvestError (Option α)) : Alike S outcome outcome := by
  cases outcome with
  | error e => exact .failed e
  | ok a? =>
      cases a? with
      | none => exact .ended
      | some a => exact .found (hS a)

namespace Protocol

/-- The second response is the first one with other prefixes for the root, its children and the
children of its lists of records, where `R` says how records may differ. -/
def Reprefixed (R : Element → Element → Prop) : Element → Element → Prop :=
  Element.Reprefixed (Content.Each
    (Element.Within "ListRecords" (Element.Reprefixed (Content.Each (Element.Within "record" R)))))

/-- Pages with the same token and list size, and with records that `R` relates. -/
structure RecordPage.Alike (R : Element → Element → Prop) (page page' : RecordPage) : Prop where
  records : List.Forall₂ R page.records page'.records
  token : page'.token = page.token
  listSize : page'.listSize = page.listSize

variable {R : Element → Element → Prop} {root root' list list' : Element}

theorem RecordPage.Alike.refl (hR : ∀ e, R e e) (page : RecordPage) : page.Alike R page :=
  ⟨List.forall₂_same.mpr fun e _ => hR e, rfl, rfl⟩

/-- The last value that a function finds in elements is found under other prefixes too. -/
theorem lastSome?_eq_of_reprefixed {β : Type} {f : Element → Option β} {es es' : List Element}
    (hf : ∀ e e', e.Reprefixed Eq e' → f e' = f e)
    (h : List.Forall₂ (Element.Reprefixed Eq) es es') : lastSome? f es' = lastSome? f es := by
  have hvalues : es'.filterMap f = es.filterMap f := by
    induction h with
    | nil => rfl
    | cons he _ ih => rw [List.filterMap_cons, List.filterMap_cons, hf _ _ he, ih]
  rw [lastSome?, lastSome?, hvalues]

theorem ofList_alike (h : list.content.Each (Element.Within "record" R) list'.content) :
    (RecordPage.ofList list).Alike R (RecordPage.ofList list') := by
  have hne : "resumptionToken" ≠ "record" := by decide
  constructor
  case records => exact Element.filter_named h
  case token =>
    refine lastSome?_eq_of_reprefixed (fun e e' he => ?_) (Element.filter_other h hne)
    rw [he.text_eq]
  case listSize =>
    refine lastSome?_eq_of_reprefixed (fun e e' he => ?_) (Element.filter_other h hne)
    rw [he.attribute?_eq (by decide)]

theorem ofResponse_alike (h : Reprefixed R root root') :
    Alike (RecordPage.Alike R) (RecordPage.ofResponse root) (RecordPage.ofResponse root') := by
  have hne : "error" ≠ "ListRecords" := by decide
  have herror := Element.childLocal?_other h.content hne
  have hlist := Element.childLocal?_named h.content
  unfold RecordPage.ofResponse
  generalize root.childLocal? "error" = e?, root'.childLocal? "error" = e?' at herror
  cases herror with
  | @some e e' he =>
      -- The code and the text of the error are looked at, and neither has changed.
      have hcode : e'.attribute? "code" = e.attribute? "code" := he.attribute?_eq (by decide)
      simp only [hcode, he.text_eq]
      split
      · exact .ended
      · exact .failed _
  | none =>
      generalize root.childLocal? "ListRecords" = list?,
        root'.childLocal? "ListRecords" = list?' at hlist
      cases hlist with
      | some hlist => exact .found (ofList_alike hlist.content)
      | none => exact .failed _

end Protocol

open Protocol

namespace RecordReader

/-- A reader takes the same from two responses up to the prefixes in the records. -/
theorem receive_alike {R : Element → Element → Prop} {root root' : Element}
    (h : Protocol.Reprefixed R root root') {body body' : String}
    (hbody : Element.parse body = .ok root) (hbody' : Element.parse body' = .ok root')
    (reader : RecordReader) :
    Alike (List.Forall₂ R) (reader.receive body).1 (reader.receive body').1 ∧
      (reader.receive body').2 = (reader.receive body).2 := by
  have hpage := ofResponse_alike h
  simp only [receive, RecordPage.read, hbody, hbody']
  generalize RecordPage.ofResponse root = page?, RecordPage.ofResponse root' = page?' at hpage
  cases hpage with
  | failed e => exact ⟨.failed e, rfl⟩
  | ended => exact ⟨.ended, rfl⟩
  | found hpage =>
      refine ⟨.found hpage.records, ?_⟩
      simp only [turn, hpage.token, hpage.listSize]

end RecordReader

namespace Repository

/-- The same answer, or responses that differ in prefixes and in declarations of namespaces. -/
inductive AnswersAlike : Except String String → Except String String → Prop
  | same (answer : Except String String) : AnswersAlike answer answer
  | reprefixed {body body' : String} {root root' : Element} :
    Element.parse body = .ok root → Element.parse body' = .ok root' →
    Protocol.Reprefixed Record.Reprefixed root root' → AnswersAlike (.ok body) (.ok body')

/-- The second repository answers as the first one, with other prefixes. -/
def Reprefixed (r r' : Repository) : Prop :=
  ∀ before url, AnswersAlike (r.answer before url) (r'.answer before url)

variable {r r' : Repository} (h : r.Reprefixed r')

include h

theorem Reprefixed.page_alike (before : List String) (url : String) :
    Alike (RecordPage.Alike Record.Reprefixed) (r.page before url) (r'.page before url) := by
  have hanswers := h before url
  simp only [page, reply]
  generalize r.answer before url = answer, r'.answer before url = answer' at hanswers
  cases hanswers with
  | same => exact .refl (.refl Record.Reprefixed.refl) _
  | @reprefixed body body' root root' hbody hbody' hroot =>
      have hpage := ofResponse_alike hroot
      simpa only [mapError_ok, Except.bind, RecordPage.read, hbody, hbody'] using hpage

theorem Reprefixed.responds_eq (before : List String) (url : String) :
    r'.responds before url = r.responds before url := by
  have hanswers := h before url
  simp only [responds, reply]
  generalize r.answer before url = answer, r'.answer before url = answer' at hanswers
  cases hanswers with
  | same => rfl
  | reprefixed => rfl

end Repository

namespace RecordReader

/-- A page is read alike from both repositories, and the reader and the requests are the same
after it. -/
theorem run_readPage_alike {r r' : Repository} (h : r.Reprefixed r') {reader : RecordReader}
    (hbuffer : reader.buffer = []) (before : List String) :
    ∃ outcome outcome' after requests,
      (reader.readPage r).run before = ((outcome, after), requests) ∧
      (reader.readPage r').run before = ((outcome', after), requests) ∧
      after.buffer = [] ∧ Alike (List.Forall₂ Record.Reprefixed) outcome outcome' := by
  cases hurl : reader.nextUrl with
  | none =>
      exact ⟨_, _, _, _, run_readPage_none hbuffer hurl r before,
        run_readPage_none hbuffer hurl r' before, hbuffer, .ended⟩
  | some url =>
      have hpage := h.page_alike before url
      rw [run_readPage_some hbuffer hurl, run_readPage_some hbuffer hurl]
      simp only [turnAt, Repository.following, Repository.page?, Repository.recordsAt,
        h.responds_eq before url]
      generalize r.page before url = page?, r'.page before url = page?' at hpage
      cases hpage with
      | failed e => exact ⟨_, _, _, _, rfl, rfl, hbuffer, .failed e⟩
      | ended => exact ⟨_, _, _, _, rfl, rfl, hbuffer, .ended⟩
      | @found page page' hpage =>
          obtain ⟨records, token, listSize⟩ := page
          obtain ⟨records', token', listSize'⟩ := page'
          obtain ⟨hrecords, rfl, rfl⟩ := hpage
          refine ⟨_, _, _, _, rfl, ?_, hbuffer, .found hrecords⟩
          have hlength : records.length = records'.length := hrecords.length_eq
          simp [Except.map, Except.toOption, count, hlength]

end RecordReader

end MetadataHarvest
