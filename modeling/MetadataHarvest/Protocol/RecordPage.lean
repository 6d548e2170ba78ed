import MetadataHarvest.Error
import MetadataHarvest.Markup.Document
import MetadataHarvest.Number.Digits

/-!
# Pages of records

A repository lists its records page by page. A page that is not the last carries a token
with which to ask for the next one, and may say how many records there are in all.
-/

namespace MetadataHarvest.Protocol

open Markup Number

/-- One page: its records, the token for the next page, and the size of the whole list. -/
structure RecordPage where
  records : List Element
  token : Option String
  listSize : Option Nat

/-- The code with which a repository says that no record matches. -/
def noRecordsMatch : String := "noRecordsMatch"

/-- The number below 2^64 that a text is, an initial plus sign apart. -/
def listSize? (s : String) : Option Nat :=
  let cs := Text.trim s.toList
  let digits := match cs with
    | '+' :: rest => rest
    | _ => cs
  if !digits.isEmpty && digits.all isDigit && ofDigits digits < Nat.pow 2 64 then
    some (ofDigits digits)
  else none

/-- The last value that `f` gives. -/
def lastSome? {α β : Type} (f : α → Option β) (as : List α) : Option β :=
  (as.filterMap f).getLast?

namespace RecordPage

/-- The page that a list of records is. Of several tokens the last one counts. -/
def ofList (list : Element) : RecordPage :=
  let tokens := list.children.filter (·.localName = "resumptionToken")
  { records := list.children.filter (·.localName = "record")
    token := lastSome? (fun e => if e.text.isEmpty then none else some e.text) tokens
    listSize := lastSome? (fun e => (e.attribute? "completeListSize").bind listSize?) tokens }

/-- The page that a response holds; none when the repository says that no record matches. -/
def ofResponse (root : Element) : Except HarvestError (Option RecordPage) :=
  match root.childLocal? "error" with
  | some e =>
    let code := (e.attribute? "code").getD ""
    if code = noRecordsMatch then .ok none else .error (.protocol code e.text)
  | none =>
    match root.childLocal? "ListRecords" with
    | none => .error (.missingElement "ListRecords")
    | some list => .ok (some (ofList list))

/-- The page in the text of a response. -/
def read (body : String) : Except HarvestError (Option RecordPage) :=
  match Element.parse body with
  | .error fault => .error (.markup fault)
  | .ok root => ofResponse root

end RecordPage

end MetadataHarvest.Protocol
