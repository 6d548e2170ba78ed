import MetadataHarvest.Proofs.Markup.Truncation
import MetadataHarvest.Proofs.RecordReader.Page

/-!
# Responses that were cut off

A response of which more than the last angle bracket was lost is a failure of the call that
asked for it, and no record of it is handed out. When nothing but that bracket was lost the
response is read in full. Either way there is no shorter list of records.
-/

namespace MetadataHarvest

open Markup Protocol

namespace RecordReader

variable {r : Repository} {before : List String} {url body : String} {reader : RecordReader}
  {fault : Fault} (hparse : Element.parse body = .error fault)
  (hanswer : r.answer before url = .ok body) (hbuffer : reader.buffer = [])
  (hurl : reader.nextUrl = some url)

include hparse hanswer in
/-- Where the response is no document there is no page. -/
theorem page_of_parse_error : r.page before url = .error (.markup fault) := by
  rw [Repository.page_of_answer hanswer, RecordPage.read, hparse]

include hparse hanswer hbuffer hurl in
theorem readPage_of_parse_error :
    ((reader.readPage r).run before).1.1 = .error (.markup fault) := by
  rw [run_readPage_some hbuffer hurl, page_of_parse_error hparse hanswer]
  rfl

include hparse hanswer hbuffer hurl in
theorem nextRecord_of_parse_error (limit : Nat) :
    ((nextRecord r (limit + 1) reader).run before).1.1 = .error (.failed (.markup fault)) := by
  rw [run_nextRecord_some hbuffer hurl, page_of_parse_error hparse hanswer]

end RecordReader

namespace RecordReader

/-- A response that was cut off is no document, and asking for a page or a record fails with
what is wrong with it. The one exception is a response that lacks its last bracket and nothing
else: it gives the page of the whole response. -/
theorem page_of_cutOff {e : Element} (he : e.isNamed = true) {cs : List Char}
    (hcs : cs <+: e.written) (hcut : cs ≠ e.written) :
    (cs ++ ['>'] ≠ e.written →
      ∃ fault, Element.parse (String.ofList cs) = .error fault ∧
        ∀ (r : Repository) (before : List String) (url : String) (reader : RecordReader)
          (limit : Nat), r.answer before url = .ok (String.ofList cs) → reader.buffer = [] →
          reader.nextUrl = some url →
          ((reader.readPage r).run before).1.1 = .error (.markup fault) ∧
            ((nextRecord r (limit + 1) reader).run before).1.1 =
              .error (.failed (.markup fault))) ∧
      (cs ++ ['>'] = e.written → e.isCanonical = true →
        Element.parse (String.ofList cs) = .ok e ∧
          ∀ (r : Repository) (before : List String) (url : String),
            r.answer before url = .ok (String.ofList cs) →
            r.page before url = RecordPage.ofResponse e) := by
  constructor
  · intro hlast
    obtain ⟨fault, hparse⟩ := Element.parse_of_cut he hcs hcut hlast
    refine ⟨fault, hparse, fun r before url reader limit hanswer hbuffer hurl => ?_⟩
    exact ⟨readPage_of_parse_error hparse hanswer hbuffer hurl,
      nextRecord_of_parse_error hparse hanswer hbuffer hurl limit⟩
  · intro hlast hcanonical
    have hparse := Element.parse_of_append_bracket hcanonical hlast
    refine ⟨hparse, fun r before url hanswer => ?_⟩
    rw [Repository.page_of_answer hanswer, RecordPage.read, hparse]

/-- A response with one record. -/
def oneRecord : Element :=
  ⟨"o", [], .element "ListRecords" [] (.element "record" [("k", "v")] .nil .nil) .nil⟩

/-- It is cut off inside the attribute of the record, and before its last bracket. -/
theorem page_of_cutOff_oneRecord :
    let early := "<o><ListRecords><record k=\"".toList
    let late := "<o><ListRecords><record k=\"v\"></record></ListRecords></o".toList
    let reader : RecordReader := ⟨"a:", some "a:", [], 0, 0, none⟩
    oneRecord.isNamed = true ∧ early <+: oneRecord.written ∧
      late ++ ['>'] = oneRecord.written ∧ oneRecord.isCanonical = true ∧
      (∃ fault,
        ((reader.readPage ⟨fun _ _ => .ok (String.ofList early)⟩).run []).1.1 =
          .error (.markup fault) ∧
        ((nextRecord ⟨fun _ _ => .ok (String.ofList early)⟩ 1 reader).run []).1.1 =
          .error (.failed (.markup fault))) ∧
      Element.parse (String.ofList late) = .ok oneRecord ∧
      Repository.page ⟨fun _ _ => .ok (String.ofList late)⟩ [] "a:" =
        RecordPage.ofResponse oneRecord := by
  intro early late reader
  have hnamed : oneRecord.isNamed = true := by decide
  have hcanonical : oneRecord.isCanonical = true := by decide
  have hearly : early <+: oneRecord.written := by decide
  have hlate : late ++ ['>'] = oneRecord.written := by decide
  obtain ⟨fault, -, hfails⟩ := (page_of_cutOff hnamed hearly (by decide)).1 (by decide)
  obtain ⟨hparse, hpage⟩ :=
    (page_of_cutOff hnamed ⟨['>'], hlate⟩ (by decide)).2 hlate hcanonical
  exact ⟨hnamed, hearly, hlate, hcanonical, ⟨fault, hfails _ [] "a:" reader 0 rfl rfl rfl⟩,
    hparse, hpage _ [] "a:" rfl⟩

end RecordReader

end MetadataHarvest
