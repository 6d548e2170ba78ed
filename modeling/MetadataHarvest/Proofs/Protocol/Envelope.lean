import MetadataHarvest.Protocol.Envelope
import MetadataHarvest.Proofs.Markup.RoundTrip

/-!
# What is read from an envelope

A response that was written from a tree is read as the same tree of parts: an element has the
parts of its content, and character data is one part, or none when it is white space alone. What
carries the proof is that a tag ends the character data before it, so that the events of content
and of what follows it are those of the two, one after the other.
-/

namespace MetadataHarvest.Markup

open Protocol

namespace Content

/-- Whether no two pieces of character data are neighbours. -/
def isMerged : Content → Bool
  | nil => true
  | text _ rest => !rest.beginsWithText && rest.isMerged
  | element _ _ children rest => children.isMerged && rest.isMerged

/-- The events of content. -/
def events : Content → List Event
  | nil => []
  | text value rest =>
    (if value.toList.all isSpace then [] else [.text (some value)]) ++ rest.events
  | element name attributes children rest =>
    .opening name (attributes.flatMap writtenAttribute) ::
      (children.events ++ .closing name :: rest.events)

/-- The parts that content is read as. -/
def parts : Content → List Part
  | nil => []
  | text value rest =>
    (if value.toList.all isSpace then [] else [.text (some value)]) ++ rest.parts
  | element name attributes children rest =>
    .element name (attributes.flatMap writtenAttribute) children.parts :: rest.parts

end Content

end MetadataHarvest.Markup

namespace MetadataHarvest.Protocol

open Markup

/-- Whether these are the tokens of a text that is empty or begins with the tag of an element. -/
def TagFirst : List Token → Prop
  | [] | .opening .. :: _ | .closing _ :: _ => True
  | _ => False

/-- A tag ends the character data before it. -/
theorem eventsFrom_of_tagFirst {ts : List Token} (h : TagFirst ts) (run : Run) :
    eventsFrom run ts = run.close ++ eventsFrom .empty ts := by
  match ts, h with
  | [], _ => simp [eventsFrom, Run.empty, Run.close]
  | .opening .. :: _, _ => simp [eventsFrom, Run.empty, Run.close]
  | .closing _ :: _, _ => simp [eventsFrom, Run.empty, Run.close]

section Text

/-- White space is written as it is, and nothing else is written as white space. -/
theorem all_isSpace_escape (cs : List Char) : (escape cs).all isSpace = cs.all isSpace := by
  induction cs with
  | nil => rfl
  | cons c cs ih =>
      rw [escape_cons, List.all_append, ih, List.all_cons]
      cases hc : isSpace c with
      | true => simp [escapeChar_of_isSpace hc, hc]
      | false =>
          obtain ⟨⟨d, ds, hwritten, hd⟩, -⟩ := escapeChar_of_not_isSpace hc
          simp [hwritten, hd]

/-- Character data before a tag is one event, or none. -/
theorem eventsFrom_raw {raw value : List Char} (hraw : '<' ∉ raw)
    (hread : unescape? raw = some value) {rest : List Char} (hrest : AtTag rest)
    (htag : TagFirst (tokens rest)) :
    eventsFrom .empty (tokens (raw ++ rest)) =
      (if raw.all isSpace then [] else [.text (some (String.ofList value))]) ++
        eventsFrom .empty (tokens rest) := by
  by_cases hne : raw = []
  · subst hne
    rfl
  · rw [tokens_of_next? (Token.next?_text hne hraw hrest), eventsFrom,
      eventsFrom_of_tagFirst htag, hread]
    cases hspace : raw.all isSpace with
    | true => simp [Run.close, Run.empty]
    | false => simp [Run.close, Run.empty]

theorem eventsFrom_text (value : String) {rest : List Char} (hrest : AtTag rest)
    (htag : TagFirst (tokens rest)) :
    eventsFrom .empty (tokens (escape value.toList ++ rest)) =
      (if value.toList.all isSpace then [] else [.text (some value)]) ++
        eventsFrom .empty (tokens rest) := by
  rw [eventsFrom_raw (bracket_not_mem_escape _) (unescape?_escape _) hrest htag,
    all_isSpace_escape, String.ofList_toList]

end Text

section Events

variable {rest : List Char} (hrest : AtTag rest) (htag : TagFirst (tokens rest))

include hrest htag in
/-- Content that does not begin with character data begins with a tag, or the rest does. -/
theorem tagFirst_written {c : Content} (hc : c.isNamed = true)
    (hbegins : c.beginsWithText = false) :
    AtTag (c.written ++ rest) ∧ TagFirst (tokens (c.written ++ rest)) := by
  cases c with
  | nil => exact ⟨hrest, htag⟩
  | text value more => cases hbegins
  | element name attributes children more =>
      simp only [Content.isNamed, Bool.and_eq_true, List.all_eq_true] at hc
      obtain ⟨⟨⟨hname, hattributes⟩, -⟩, -⟩ := hc
      simp only [Content.written, List.append_assoc]
      rw [tokens_of_next? (Token.next?_openingTag hname hattributes _)]
      exact ⟨atTag_cons _, trivial⟩

end Events

/-- Whether a text has these events wherever a tag comes next. -/
def ReadsAs (cs : List Char) (events : List Event) : Prop :=
  ∀ rest, AtTag rest → TagFirst (tokens rest) →
    eventsFrom .empty (tokens (cs ++ rest)) = events ++ eventsFrom .empty (tokens rest)

/-- An element has the events of what is in it between those of its tags. -/
theorem ReadsAs.element {name : String} (hname : isName name = true)
    (attributes : List (String × String)) (hattributes : ∀ a ∈ attributes, isName a.1 = true)
    {inner : List Char} {events : List Event} (h : ReadsAs inner events) (rest : List Char) :
    eventsFrom .empty (tokens (openingTag name attributes ++
        (inner ++ (closingTag name ++ rest)))) =
      .opening name (attributes.flatMap writtenAttribute) ::
        (events ++ .closing name :: eventsFrom .empty (tokens rest)) := by
  have hclosing := tokens_of_next? (Token.next?_closingTag hname rest)
  have hatTag : AtTag (closingTag name ++ rest) := atTag_cons _
  have htagFirst : TagFirst (tokens (closingTag name ++ rest)) := by
    rw [hclosing]
    trivial
  have hinner := h _ hatTag htagFirst
  rw [hclosing, eventsFrom] at hinner
  rw [tokens_of_next? (Token.next?_openingTag hname hattributes _), eventsFrom, hinner]
  simp [Run.close, Run.empty]

/-- The events of content come before those of what follows it. -/
theorem readsAs_written {c : Content} (hc : c.isNamed = true) (hmerged : c.isMerged = true) :
    ReadsAs c.written c.events := by
  induction c with
  | nil => exact fun _ _ _ => rfl
  | text value more ih =>
      intro rest hrest htag
      simp only [Content.isMerged, Bool.and_eq_true, Bool.not_eq_true'] at hmerged
      have hnamed : more.isNamed = true := hc
      obtain ⟨hmore, htagMore⟩ := tagFirst_written hrest htag hnamed hmerged.1
      rw [Content.written, List.append_assoc, eventsFrom_text value hmore htagMore,
        ih hc hmerged.2 rest hrest htag, Content.events, List.append_assoc]
  | element name attributes children more ihChildren ihMore =>
      intro rest hrest htag
      simp only [Content.isNamed, Bool.and_eq_true, List.all_eq_true] at hc
      obtain ⟨⟨⟨hname, hattributes⟩, hchildren⟩, hmore⟩ := hc
      rw [Content.isMerged, Bool.and_eq_true] at hmerged
      have helement := (ihChildren hchildren hmerged.1).element hname attributes hattributes
      simp only [Content.written, List.append_assoc]
      rw [helement, ihMore hmore hmerged.2 rest hrest htag, Content.events, List.cons_append,
        List.append_assoc, List.cons_append]

/-- The events of content give its parts to the innermost open element. -/
theorem rootFrom?_events (c : Content) (e : OpenPart) (outer : List OpenPart)
    (more : List Event) :
    rootFrom? (e :: outer) (c.events ++ more) =
      rootFrom? ({ e with parts := c.parts.reverse ++ e.parts } :: outer) more := by
  induction c generalizing e outer more with
  | nil => rfl
  | text value rest ih =>
      rw [Content.events, Content.parts]
      split
      · exact ih e outer more
      · rw [List.append_assoc, List.singleton_append, rootFrom?, ih]
        simp
  | element name attributes children rest ihChildren ihRest =>
      rw [Content.events, List.cons_append, rootFrom?, List.append_assoc, ihChildren,
        List.cons_append, rootFrom?]
      simp [ihRest, Content.parts]

/-- The root of a response as it is read. -/
def rootOf? (body : String) : Option Part :=
  rootFrom? [] (eventsFrom .empty (documentTokens (removeNamespaces body.toList)))

/-- The envelope of a response is that of its root. -/
theorem Envelope.read?_of_rootOf? {body name : String} {attributes : List Char}
    {parts : List Part} (h : rootOf? body = some (.element name attributes parts)) :
    Envelope.read? body = ofRoot? ⟨attributes, parts⟩ := by
  unfold rootOf? at h
  rw [Envelope.read?, h]
  rfl

/-- An envelope is that of the root of its response. -/
theorem Envelope.exists_root {body : String} {envelope : Envelope}
    (h : read? body = some envelope) :
    ∃ name attributes parts, rootOf? body = some (.element name attributes parts) ∧
      ofRoot? ⟨attributes, parts⟩ = some envelope := by
  rw [read?, Option.bind_eq_bind, Option.bind_eq_some_iff] at h
  obtain ⟨p, hroot, h⟩ := h
  cases p with
  | text value => cases h
  | element name attributes parts => exact ⟨name, attributes, parts, hroot, h⟩

/-- The formats of a list. -/
def readFormats? (list : Interior) : Option (List OfferedFormat) :=
  (Fields.read? (some "metadataFormat") [] list).bind fun fields =>
    (fields.items.getD []).mapM OfferedFormat.read?

/-- What is read of a root. -/
theorem Envelope.ofRoot?_eq_some_iff {i : Interior} {envelope : Envelope} :
    Envelope.ofRoot? i = some envelope ↔
      ∃ f, Fields.read? (some "error") ["ListMetadataFormats", "Identify"] i = some f ∧
        (f.items.getD []).mapM ReportedError.read? = some envelope.errors ∧
        (f.singles.lookup "ListMetadataFormats").mapM readFormats? = some envelope.formats ∧
        ((f.singles.lookup "Identify").mapM fun identity =>
          (Fields.read? none ["repositoryName"] identity).bind (·.text? "repositoryName")) =
            some envelope.name := by
  simp only [ofRoot?, Option.bind_eq_bind, Option.bind_eq_some_iff]
  constructor
  · rintro ⟨f, hfields, errors, herrors, formats, hformats, name, hname, henvelope⟩
    obtain rfl := Option.some.inj henvelope
    exact ⟨f, hfields, herrors, hformats, hname⟩
  · rintro ⟨f, hfields, herrors, hformats, hname⟩
    exact ⟨f, hfields, _, herrors, _, hformats, _, hname, rfl⟩

/-- The root of a response has the parts that its text reads as. -/
theorem rootOf?_of_readsAs {cs inner : List Char} {name : String}
    (hname : isName name = true) (attributes : List (String × String))
    (hattributes : ∀ a ∈ attributes, isName a.1 = true) {c : Content}
    (hinner : ReadsAs inner c.events)
    (h : removeNamespaces cs = openingTag name attributes ++ (inner ++ closingTag name)) :
    rootOf? (String.ofList cs) =
      some (.element name (attributes.flatMap writtenAttribute) c.parts) := by
  have htokens : documentTokens (removeNamespaces cs) = tokens (removeNamespaces cs) := by
    simp [h, documentTokens, openingTag]
  have hevents := hinner.element hname attributes hattributes []
  rw [List.append_nil, ← h, tokens_nil] at hevents
  rw [rootOf?, String.toList_ofList, htokens, hevents, rootFrom?, rootFrom?_events, rootFrom?]
  simp

theorem rootOf?_of_written {cs : List Char} {e : Element} (hnamed : e.isNamed = true)
    (hmerged : e.content.isMerged = true) (h : removeNamespaces cs = e.written) :
    rootOf? (String.ofList cs) =
      some (.element e.name (e.attributes.flatMap writtenAttribute) e.content.parts) := by
  simp only [Element.isNamed, Element.alone, Content.isNamed, Bool.and_eq_true,
    List.all_eq_true] at hnamed
  obtain ⟨⟨⟨hname, hattributes⟩, hcontent⟩, -⟩ := hnamed
  rw [Element.written, List.append_assoc] at h
  exact rootOf?_of_readsAs hname e.attributes hattributes (readsAs_written hcontent hmerged) h

/-- The envelope of a response is that of the parts of its root. -/
theorem Envelope.read?_of_written {cs : List Char} {e : Element} (hnamed : e.isNamed = true)
    (hmerged : e.content.isMerged = true) (h : removeNamespaces cs = e.written) :
    Envelope.read? (String.ofList cs) =
      ofRoot? ⟨e.attributes.flatMap writtenAttribute, e.content.parts⟩ :=
  read?_of_rootOf? (rootOf?_of_written hnamed hmerged h)

end MetadataHarvest.Protocol
