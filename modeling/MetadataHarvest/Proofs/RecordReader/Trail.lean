import MetadataHarvest.Proofs.RecordReader.Page
import Mathlib.Data.List.Nodup

/-!
# Chains of pages

The pages of a list form a trail: each token leads to the page after it, and the trail stops
at a page that leads nowhere. A repository that says the same at any time has at most one
trail from an address, and no address occurs twice on it.
-/

namespace MetadataHarvest

open Markup Protocol

namespace Repository

/-- The repository says the same at any time. -/
def Stable (r : Repository) : Prop :=
  ∀ before url, r.answer before url = r.answer [] url

theorem stable_ofAnswers (answers : List (String × String)) (reason : String) :
    (ofAnswers answers reason).Stable := fun _ _ => rfl

theorem Stable.reply {r : Repository} (stable : r.Stable) (before : List String)
    (url : String) : r.reply before url = r.reply [] url := by
  rw [Repository.reply, stable before url, Repository.reply]

theorem Stable.page {r : Repository} (stable : r.Stable) (before : List String)
    (url : String) : r.page before url = r.page [] url := by
  rw [Repository.page, stable.reply before url, Repository.page]

theorem Stable.recordsAt {r : Repository} (stable : r.Stable) (before : List String)
    (url : String) : r.recordsAt before url = r.recordsAt [] url := by
  simp only [Repository.recordsAt, Repository.page?, stable.page before]

theorem Stable.turnAt {r : Repository} (stable : r.Stable) (reader : RecordReader)
    (before : List String) (url : String) :
    reader.turnAt r before url = reader.turnAt r [] url := by
  simp only [RecordReader.turnAt, following, page?, responds, stable.page before,
    stable.reply before]

/-- A page is read from a stable repository as if nothing was requested before. -/
theorem Stable.run_readPage {r : Repository} (stable : r.Stable) {reader : RecordReader}
    {url : String} (hbuffer : reader.buffer = []) (hurl : reader.nextUrl = some url)
    (before : List String) :
    (reader.readPage r).run before =
      (((r.page [] url).map (Option.map (·.records)),
        (reader.turnAt r [] url).count (r.recordsAt [] url)), before ++ [url]) := by
  rw [RecordReader.run_readPage_some hbuffer hurl, stable.page before, stable.turnAt,
    stable.recordsAt before]

/-- So is a record. -/
theorem Stable.run_nextRecord {r : Repository} (stable : r.Stable) {reader : RecordReader}
    {url : String} (hbuffer : reader.buffer = []) (hurl : reader.nextUrl = some url)
    (limit : Nat) (before : List String) :
    (RecordReader.nextRecord r (limit + 1) reader).run before =
      match r.page [] url with
      | .error e => ((.error (.failed e), reader.turnAt r [] url), before ++ [url])
      | .ok none => ((.ok none, reader.turnAt r [] url), before ++ [url])
      | .ok (some page) =>
        (RecordReader.nextRecord r limit
            { reader.turnAt r [] url with buffer := page.records }).run (before ++ [url]) := by
  have hrun := RecordReader.run_nextRecord_some hbuffer hurl r limit before
  rw [stable.page before, stable.turnAt] at hrun
  exact hrun

/-- The addresses of the pages from a pending one on, each where the page before leads. -/
inductive Trail (r : Repository) (host : String) : Option String → List String → Prop
  | stop : Trail r host none []
  | turn {url : String} {urls : List String}
      (tail : Trail r host (r.following host [] url) urls) :
      Trail r host (some url) (url :: urls)

variable {r : Repository} {host : String} {pending : Option String} {urls : List String}

/-- A pending address has one trail at most. -/
theorem Trail.unique (trail : r.Trail host pending urls) :
    ∀ {urls'}, r.Trail host pending urls' → urls = urls' := by
  induction trail with
  | stop =>
      intro urls' trail'
      cases trail'
      rfl
  | turn tail ih =>
      intro urls' trail'
      cases trail' with
      | turn tail' => rw [ih tail']

/-- Where nothing is pending nothing is ahead. -/
theorem Trail.eq_nil (trail : r.Trail host none urls) : urls = [] := by
  cases trail
  rfl

/-- A trail that is not at its stop begins where something is pending. -/
theorem Trail.of_cons {url : String} (trail : r.Trail host pending (url :: urls)) :
    pending = some url ∧ r.Trail host (r.following host [] url) urls := by
  cases trail with
  | turn tail => exact ⟨rfl, tail⟩

theorem Trail.of_nil (trail : r.Trail host pending []) : pending = none := by
  cases trail
  rfl

/-- A failure is the last thing on a trail, and no record is read there. -/
theorem Trail.failure_last (trail : r.Trail host pending urls) {e : HarvestError}
    (h : urls.findSome? (r.failureAt []) = some e) :
    ∃ earlier last, urls = earlier ++ [last] ∧ r.page [] last = .error e ∧
      urls.flatMap (r.recordsAt []) = earlier.flatMap (r.recordsAt []) := by
  induction trail with
  | stop => cases h
  | @turn url urls tail ih =>
      cases hpage : r.page [] url with
      | error e' =>
          have hnone := page?_of_error hpage
          rw [following_of_page?_eq_none hnone] at tail
          obtain rfl := tail.eq_nil
          simp only [List.findSome?_cons, failureAt, hpage, Option.some.injEq] at h
          refine ⟨[], url, rfl, ?_, ?_⟩
          · rw [hpage, h]
          · simp only [List.flatMap_cons, List.flatMap_nil, List.append_nil]
            exact recordsAt_of_page?_eq_none hnone
      | ok page? =>
          simp only [List.findSome?_cons, failureAt, hpage] at h
          obtain ⟨earlier, last, rfl, hlast, hrecords⟩ := ih h
          refine ⟨url :: earlier, last, rfl, hlast, ?_⟩
          rw [List.flatMap_cons, List.flatMap_cons, hrecords]

/-- From each of its addresses a trail goes on as the trail of that address. -/
theorem Trail.of_mem (trail : r.Trail host pending urls) {url : String} (hmem : url ∈ urls) :
    ∃ rest, rest <:+ urls ∧ r.Trail host (some url) rest := by
  induction trail with
  | stop => cases hmem
  | @turn first urls tail ih =>
      rcases List.mem_cons.mp hmem with rfl | hmem
      · exact ⟨url :: urls, List.suffix_rfl, Trail.turn tail⟩
      · obtain ⟨rest, hsuffix, htrail⟩ := ih hmem
        exact ⟨rest, hsuffix.trans (List.suffix_cons first urls), htrail⟩

/-- No trail comes back to an address, since it would go on from there as before. -/
theorem Trail.nodup (trail : r.Trail host pending urls) : urls.Nodup := by
  induction trail with
  | stop => exact List.nodup_nil
  | @turn url urls tail ih =>
      refine List.nodup_cons.mpr ⟨fun hmem => ?_, ih⟩
      obtain ⟨rest, hsuffix, htrail⟩ := tail.of_mem hmem
      have heq : rest = url :: urls := htrail.unique (Trail.turn tail)
      have hle := hsuffix.length_le
      rw [heq, List.length_cons] at hle
      omega

/-- A repository with one format, whose list breaks off after two pages. -/
def sample : Repository :=
  ofAnswers
    [("a:?verb=ListMetadataFormats",
        "<o><ListMetadataFormats><metadataFormat><metadataPrefix>p</metadataPrefix>"
          ++ "<metadataNamespace>s</metadataNamespace></metadataFormat></ListMetadataFormats></o>"),
      ("a:?verb=ListRecords&metadataPrefix=p",
        "<o><ListRecords><record/><resumptionToken>x</resumptionToken></ListRecords></o>"),
      ("a:?verb=ListRecords&resumptionToken=x",
        "<o><ListRecords><record/><record/><resumptionToken>y</resumptionToken>"
          ++ "</ListRecords></o>")]
    "down"

def sampleUrls : List String :=
  ["a:?verb=ListRecords&metadataPrefix=p", "a:?verb=ListRecords&resumptionToken=x",
    "a:?verb=ListRecords&resumptionToken=y"]

theorem trail_sample :
    sample.Trail "a:" (some "a:?verb=ListRecords&metadataPrefix=p") sampleUrls := by
  have h₁ : sample.following "a:" [] "a:?verb=ListRecords&metadataPrefix=p" =
      some "a:?verb=ListRecords&resumptionToken=x" := by decide +kernel
  have h₂ : sample.following "a:" [] "a:?verb=ListRecords&resumptionToken=x" =
      some "a:?verb=ListRecords&resumptionToken=y" := by decide +kernel
  have h₃ : sample.following "a:" [] "a:?verb=ListRecords&resumptionToken=y" = none := by
    decide +kernel
  refine .turn ?_
  rw [h₁]
  refine .turn ?_
  rw [h₂]
  refine .turn ?_
  rw [h₃]
  exact .stop

end Repository

end MetadataHarvest
