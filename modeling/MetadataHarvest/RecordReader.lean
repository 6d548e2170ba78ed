import MetadataHarvest.Protocol.RecordPage
import MetadataHarvest.Protocol.Request
import MetadataHarvest.Repository.Basic

/-!
# Reading records

A list of records is read record by record or page by page. A page is requested when the
records of the one before are used up. After a failure nothing more is requested.

## Implementation notes

A repository may lead back to a page that was read before, so what goes on until the list
ends has a limit to the number of pages, and reaching it is told apart from every failure.
-/

namespace MetadataHarvest

open Markup Protocol

structure RecordReader where
  /-- The address of the repository without outer blanks. -/
  host : String
  /-- Where the next page is, if there is one. -/
  nextUrl : Option String
  /-- Records that were received and not handed out. -/
  buffer : List Element
  pagesRead : Nat
  recordsRead : Nat
  /-- The size of the whole list, as far as the repository has said. -/
  listSize : Option Nat

/-- Why reading did not come to the end of a list. -/
inductive Interruption where
  | failed (e : HarvestError)
  /-- The limit to the number of pages was reached. -/
  | outOfPages
  deriving DecidableEq

namespace RecordReader

/-- A reader at the beginning of a list. -/
def start (address metadataPrefix : String) (since upTo : Option String) :
    Except ConfigurationError RecordReader := do
  let url ← listRecordsUrl address metadataPrefix since upTo
  return {
    host := ← Protocol.host address
    nextUrl := some url
    buffer := []
    pagesRead := 0
    recordsRead := 0
    listSize := none }

/-- The reader after a page, whose records are not counted yet. -/
def turn (r : RecordReader) (page : RecordPage) : RecordReader :=
  { r with
    nextUrl := page.token.map fun token => (Request.resumption token).url r.host
    listSize := page.listSize.orElse fun _ => r.listSize }

/-- The records in a response, none at the end of the list, and the reader after it. -/
def receive (r : RecordReader) (body : String) :
    Except HarvestError (Option (List Element)) × RecordReader :=
  let r := { r with pagesRead := r.pagesRead + 1 }
  match RecordPage.read body with
  | .error e => (.error e, r)
  | .ok none => (.ok none, r)
  | .ok (some page) => (.ok (some page.records), r.turn page)

/-- The records of the next page, none at the end of the list. -/
def fetchPage (r : RecordReader) (repository : Repository) :
    Session (Except HarvestError (Option (List Element)) × RecordReader) :=
  match r.nextUrl with
  | none => return (.ok none, r)
  | some url => do
    let r := { r with nextUrl := none }
    match ← repository.fetch url with
    | .error e => return (.error e, r)
    | .ok body => return r.receive body

/-- Hands out `records`. -/
def count (r : RecordReader) (records : List Element) : RecordReader :=
  { r with recordsRead := r.recordsRead + records.length }

/-- The rest of the page that was begun, or the next page. -/
def readPage (r : RecordReader) (repository : Repository) :
    Session (Except HarvestError (Option (List Element)) × RecordReader) :=
  match r.buffer with
  | [] => do
    match ← r.fetchPage repository with
    | (.ok (some page), r) => return (.ok (some page), r.count page)
    | other => return other
  | records => return (.ok (some records), { r with buffer := [] }.count records)

/-- The next record, none at the end of the list; at most `limit` pages are requested. -/
def nextRecord (repository : Repository) (limit : Nat) (r : RecordReader) :
    Session (Except Interruption (Option Element) × RecordReader) :=
  match r.buffer, limit with
  | record :: rest, _ => return (.ok (some record), { r with buffer := rest }.count [record])
  | [], 0 => return (.error .outOfPages, r)
  | [], limit + 1 => do
    match ← r.fetchPage repository with
    | (.error e, r) => return (.error (.failed e), r)
    | (.ok none, r) => return (.ok none, r)
    | (.ok (some page), r) => nextRecord repository limit { r with buffer := page }

/-- All records up to the end of the list, with the failures in between; at most `limit`
steps are made, and each requests at most `limit` pages. -/
def drain (repository : Repository) (limit : Nat) (r : RecordReader) :
    Session (List (Except Interruption Element) × RecordReader) :=
  match limit with
  | 0 => return ([.error .outOfPages], r)
  | limit + 1 => do
    match ← nextRecord repository (limit + 1) r with
    | (.ok none, r) => return ([], r)
    | (.ok (some record), r) => do
      let (rest, r) ← drain repository limit r
      return (.ok record :: rest, r)
    | (.error .outOfPages, r) => return ([.error .outOfPages], r)
    | (.error e, r) => do
      let (rest, r) ← drain repository limit r
      return (.error e :: rest, r)

end RecordReader

end MetadataHarvest
