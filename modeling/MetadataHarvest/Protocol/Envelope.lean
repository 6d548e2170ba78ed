import MetadataHarvest.Error
import MetadataHarvest.Markup.Attribute
import MetadataHarvest.Protocol.Namespaces

/-!
# Response envelopes

What a response says about the repository itself: an error that it reports, the formats
that it offers, and its name. A response is read without regard to namespaces, elements
that are not known are passed over, and reading stops where the root element ends.

## Implementation notes

Nothing is interpreted before it is wanted, so a reference that cannot be read does no harm
inside an element that is passed over, unless that element begins with it.
-/

namespace MetadataHarvest.Protocol

open Markup

/-- What stands in a response: character data, joined across comments and sections, and
the bounds of elements. Character data has no text when a reference in it cannot be read. -/
inductive Event where
  | text (value : Option String)
  | opening (name : String) (attributes : List Char)
  | closing (name : String)
  | malformed

/-- Character data that has begun: its parts so far, latest first, and whether there was
more than white space. -/
structure Run where
  parts : List (Option (List Char))
  shown : Bool

namespace Run

def empty : Run := ⟨[], false⟩

/-- The event of a run that is over; white space alone is none. -/
def close (r : Run) : List Event :=
  if r.shown then
    [.text ((r.parts.reverse.mapM id).map fun parts => String.ofList parts.flatten)]
  else []

end Run

/-- The events of tokens when `run` comes before them. -/
def eventsFrom (run : Run) : List Token → List Event
  | [] => run.close
  | .text raw :: tokens =>
    eventsFrom ⟨unescape? raw :: run.parts, run.shown || !raw.all isSpace⟩ tokens
  | .cdata content :: tokens => eventsFrom ⟨some content :: run.parts, true⟩ tokens
  | .comment _ :: tokens | .instruction _ :: tokens => eventsFrom run tokens
  | .doctype _ :: tokens => run.close ++ eventsFrom .empty tokens
  | .opening name attributes selfClosing :: tokens =>
    let bounds :=
      if selfClosing then [.opening name attributes, .closing name] else [.opening name attributes]
    run.close ++ bounds ++ eventsFrom .empty tokens
  | .closing name :: tokens => run.close ++ .closing name :: eventsFrom .empty tokens
  | .malformed :: _ => run.close ++ [.malformed]

/-- What an element of a response holds, in order. -/
inductive Part where
  | text (value : Option String)
  | element (name : String) (attributes : List Char) (parts : List Part)

/-- An element that is open, with its parts so far, the latest first. -/
structure OpenPart where
  name : String
  attributes : List Char
  parts : List Part

/-- The root element of the events when the elements `stack` are open, innermost first. -/
def rootFrom? : List OpenPart → List Event → Option Part
  | _, [] => none
  | stack, .opening name attributes :: events => rootFrom? (⟨name, attributes, []⟩ :: stack) events
  | e :: outer, .text value :: events =>
    rootFrom? ({ e with parts := .text value :: e.parts } :: outer) events
  | e :: outer, .closing name :: events =>
    if e.name = name then
      let whole := Part.element e.name e.attributes e.parts.reverse
      match outer with
      | [] => some whole
      | parent :: outer =>
        rootFrom? ({ parent with parts := whole :: parent.parts } :: outer) events
    else none
  | _, _ => none

/-- The part of a name after its first colon. -/
def afterFirstColon (name : String) : String :=
  match name.toList.dropWhile (· ≠ ':') with
  | [] => name
  | _ :: rest => String.ofList rest

/-- What a field holds: its attributes as written and its parts. -/
structure Interior where
  attributes : List Char
  parts : List Part

/-- What is known of an element that has fields: its texts, the items of its list, and the
fields that occurred. -/
structure Fields where
  texts : List String
  items : Option (List Interior)
  singles : List (String × Interior)
  /-- The full name of the items while the list goes on. -/
  listed : Option String

namespace Fields

def empty : Fields := ⟨[], none, [], none⟩

/-- The fields after one more part, of an element whose list has items named `item` and
whose other fields are named in `known`. A list is not interrupted, no field occurs twice,
and what is passed over may not begin with a text that cannot be read. -/
def step? (item : Option String) (known : List String) (f : Fields) : Part → Option Fields
  | .text none => none
  | .text (some value) =>
    if f.listed.isSome then none else some { f with texts := f.texts ++ [value] }
  | .element name attributes parts =>
    let key := afterFirstColon name
    if f.listed = some name then
      some { f with items := f.items.map (· ++ [⟨attributes, parts⟩]) }
    else if item = some key then
      if f.items.isSome then none
      else some { f with items := some [⟨attributes, parts⟩], listed := some name }
    else if known.contains key then
      if (f.singles.lookup key).isSome then none
      else some { f with singles := f.singles ++ [(key, ⟨attributes, parts⟩)], listed := none }
    else match parts with
      | .text none :: _ => none
      | _ => some { f with listed := none }

/-- The fields of an element. Its attributes must be readable, whatever they are. -/
def read? (item : Option String) (known : List String) (interior : Interior) : Option Fields :=
  (rawAttributes? interior.attributes).bind fun _ =>
    interior.parts.foldlM (step? item known) empty

/-- The text of a field, which holds one text or nothing; a missing field has the empty
text. -/
def text? (f : Fields) (name : String) : Option String :=
  match (f.singles.lookup name).map Interior.parts with
  | none | some [] => some ""
  | some [Part.text value] => value
  | some _ => none

end Fields

/-- The local name of an attribute; a namespace binding has its whole name. -/
def attributeKey (name : String) : String :=
  if name = "xmlns" || "xmlns:".toList.isPrefixOf name.toList then name
  else afterFirstColon name

/-- The value of the one attribute with a local name, empty when there is none. -/
def attributeText? (key : String) (attributes : List Char) : Option String := do
  match (← rawAttributes? attributes).filter (attributeKey ·.name = key) with
  | [] => some ""
  | [a] => (unescape? a.value).map String.ofList
  | _ => none

/-- An error that a repository reports. -/
structure ReportedError where
  code : String
  message : String

/-- A reported error: its code is an attribute and its message the only text. -/
def ReportedError.read? (interior : Interior) : Option ReportedError := do
  let code ← attributeText? "code" interior.attributes
  let fields ← Fields.read? none [] interior
  match fields.texts with
  | [] => some ⟨code, ""⟩
  | [message] => some ⟨code, Text.trimmed message⟩
  | _ => none

/-- A format that a repository offers. -/
structure OfferedFormat where
  metadataPrefix : String
  schema : String

/-- An offered format. The address of its schema document is not used but must be a text. -/
def OfferedFormat.read? (interior : Interior) : Option OfferedFormat := do
  let fields ←
    Fields.read? none ["metadataPrefix", "metadataNamespace", "schema"] interior
  let _ ← fields.text? "schema"
  return ⟨← fields.text? "metadataPrefix", ← fields.text? "metadataNamespace"⟩

/-- What a response says about the repository. -/
structure Envelope where
  errors : List ReportedError
  formats : Option (List OfferedFormat)
  /-- The name of the repository, when it identifies itself. -/
  name : Option String

namespace Envelope

def ofRoot? (interior : Interior) : Option Envelope := do
  let fields ← Fields.read? (some "error") ["ListMetadataFormats", "Identify"] interior
  let errors ← (fields.items.getD []).mapM ReportedError.read?
  let formats ← (fields.singles.lookup "ListMetadataFormats").mapM fun list => do
    let formats ← Fields.read? (some "metadataFormat") [] list
    (formats.items.getD []).mapM OfferedFormat.read?
  let name ← (fields.singles.lookup "Identify").mapM fun identity => do
    (← Fields.read? none ["repositoryName"] identity).text? "repositoryName"
  return ⟨errors, formats, name⟩

/-- The envelope of a response. -/
def read? (body : String) : Option Envelope := do
  match ← rootFrom? [] (eventsFrom .empty (documentTokens (removeNamespaces body.toList))) with
  | .element _ attributes parts => ofRoot? ⟨attributes, parts⟩
  | .text _ => none

/-- The envelope of a response that reports no error. -/
def read (body : String) : Except HarvestError Envelope :=
  match read? body with
  | none => .error (.markup .malformed)
  | some envelope =>
    match envelope.errors with
    | e :: _ => .error (.protocol e.code e.message)
    | [] => .ok envelope

end Envelope

end MetadataHarvest.Protocol
