import MetadataHarvest.Proofs.Protocol.CarriedText

/-!
# A response around one text

A response without attributes, namespaces apart, in which one text is missing. Whichever text is
put there and however it is written, the namespaces of the response are removed and nothing else
of it is, and the response is read as the tree that has there what is left of the text.

## Implementation notes

The missing text has tags on both sides. Declarations end with a quotation mark, of which there is
none in the rest of the response, and the front of a tag has no end of a tag in it, so neither
begins before the text and ends in it, nor the other way.
-/

namespace MetadataHarvest.Markup

open Protocol

/-- Content without attributes in which one text is missing. -/
inductive Context where
  | here (rest : Content)
  | afterText (value : String) (more : Context)
  | afterElement (name : String) (children : Content) (more : Context)
  | inside (name : String) (children : Context) (rest : Content)

/-- Without a prefix names are as they are. -/
theorem Content.qualify_none (c : Content) : c.qualify none = c := by
  induction c with
  | nil => rfl
  | text value rest ih => rw [qualify, ih]
  | element name attributes children rest ihChildren ihRest =>
      rw [qualify, ihChildren, ihRest]
      rfl

namespace Context

/-- The content with a text in the place of the missing one. -/
def fill (value : String) : Context → Content
  | here rest => .text value rest
  | afterText before more => .text before (more.fill value)
  | afterElement name children more => .element name [] children (more.fill value)
  | inside name children rest => .element name [] (children.fill value) rest

/-- What is written before the missing text, with a prefix at every name. -/
def front (q : Option String) : Context → List Char
  | here _ => []
  | afterText before more => escape before.toList ++ more.front q
  | afterElement name children more =>
    openingTag (qualified q name) [] ++ ((children.qualify q).written ++
      (closingTag (qualified q name) ++ more.front q))
  | inside name children _ => openingTag (qualified q name) [] ++ children.front q

/-- What is written after the missing text. -/
def back (q : Option String) : Context → List Char
  | here rest => (rest.qualify q).written
  | afterText _ more | afterElement _ _ more => more.back q
  | inside name children rest =>
    children.back q ++ (closingTag (qualified q name) ++ (rest.qualify q).written)

/-- The context with more content before it. -/
def behind : Content → Context → Context
  | .nil, k => k
  | .text value rest, k => .afterText value (behind rest k)
  | .element name _ children rest, k => .afterElement name children (behind rest k)

/-- The text of a response with this content around a text that is written as `middle`. Its root
declares a prefix, or the namespace of names without one. -/
def response (k : Context) (root : String) (q declared : Option String) (uri : String)
    (middle : List Char) : String :=
  String.ofList (openingTag (qualified q root) [(declarationName declared, uri)] ++
    (k.front q ++ (middle ++ (k.back q ++ closingTag (qualified q root)))))

theorem isPlain_fill (k : Context) (value value' : String) :
    (k.fill value).isPlain = (k.fill value').isPlain := by
  induction k with
  | here rest => rfl
  | afterText before more ih => exact ih
  | afterElement name children more ih => simp [fill, Content.isPlain, ih]
  | inside name children rest ih => simp [fill, Content.isPlain, ih]

theorem isMerged_fill (k : Context) (value value' : String) :
    (k.fill value).isMerged = (k.fill value').isMerged := by
  have hbegins (k : Context) : (k.fill value).beginsWithText = (k.fill value').beginsWithText := by
    cases k <;> rfl
  induction k with
  | here rest => rfl
  | afterText before more ih => simp [fill, Content.isMerged, ih, hbegins]
  | afterElement name children more ih => simp [fill, Content.isMerged, ih]
  | inside name children rest ih => simp [fill, Content.isMerged, ih]

theorem written_fill (q : Option String) (k : Context) (value : String) :
    ((k.fill value).qualify q).written = k.front q ++ (escape value.toList ++ k.back q) := by
  induction k with
  | here rest => rfl
  | afterText before more ih => simp [fill, front, back, Content.qualify, Content.written, ih]
  | afterElement name children more ih =>
      simp [fill, front, back, Content.qualify, Content.written, ih]
  | inside name children rest ih =>
      simp [fill, front, back, Content.qualify, Content.written, ih]

end Context

end MetadataHarvest.Markup

namespace MetadataHarvest.Markup.Context

open Protocol Text

section Behind

variable {c : Content} {k : Context} {value : String}

theorem isPlain_behind (hc : c.isPlain = true) (hk : (k.fill value).isPlain = true) :
    ((behind c k).fill value).isPlain = true := by
  induction c with
  | nil => exact hk
  | text before rest ih => exact ih hc
  | element name attributes children rest _ ih =>
      simp only [Content.isPlain, List.isEmpty_nil, Bool.and_true, Bool.and_eq_true, behind, fill]
        at hc ⊢
      exact ⟨⟨hc.1.1.1, hc.1.2⟩, ih hc.2⟩

theorem isMerged_behind (hc : c.isMerged = true) (hk : (k.fill value).isMerged = true)
    (hbegins : (k.fill value).beginsWithText = false) :
    ((behind c k).fill value).isMerged = true := by
  induction c with
  | nil => exact hk
  | text before rest ih =>
      simp only [Content.isMerged, Bool.and_eq_true, Bool.not_eq_true', behind, fill] at hc ⊢
      refine ⟨?_, ih hc.2⟩
      cases rest with
      | nil => exact hbegins
      | text before' rest => cases hc.1
      | element name attributes children rest => rfl
  | element name attributes children rest _ ih =>
      simp only [Content.isMerged, Bool.and_eq_true, behind, fill] at hc ⊢
      exact ⟨hc.1, ih hc.2⟩

theorem parts_behind (hc : c.isPlain = true) :
    ((behind c k).fill value).parts = c.parts ++ (k.fill value).parts := by
  induction c with
  | nil => rfl
  | text before rest ih =>
      rw [behind, fill, Content.parts, ih hc, Content.parts, List.append_assoc]
  | element name attributes children rest _ ih =>
      simp only [Content.isPlain, List.isEmpty_iff, Bool.and_eq_true] at hc
      obtain ⟨⟨⟨-, rfl⟩, -⟩, hrest⟩ := hc
      rw [behind, fill, Content.parts, ih hrest, Content.parts, List.cons_append]

end Behind

section Removal

variable {k : Context} {value : String} (hplain : (k.fill value).isPlain = true)
  {q : Option String} (hq : ∀ p ∈ q, isPlainName p = true)

include hplain hq in
theorem quote_not_mem_around : '"' ∉ k.front q ∧ '"' ∉ k.back q := by
  have hquote := quote_not_mem_written hq hplain
  rw [written_fill, List.mem_append, List.mem_append, not_or, not_or] at hquote
  exact ⟨hquote.1, hquote.2.2⟩

include hplain hq in
/-- The prefixes before the missing text are removed. -/
theorem removePrefixes_front (rest : List Char) :
    removePrefixes 0 (k.front q ++ rest) = k.front none ++ removePrefixes 0 rest := by
  induction k with
  | here more => rfl
  | afterText before more ih =>
      simp only [front, List.append_assoc]
      rw [removePrefixes_append (bracket_not_mem_escape _), ih hplain]
  | afterElement name children more ih =>
      simp only [fill, Content.isPlain, List.isEmpty_nil, Bool.and_true, Bool.and_eq_true]
        at hplain
      obtain ⟨⟨hname, hchildren⟩, hmore⟩ := hplain
      simp only [front, List.append_assoc]
      rw [removePrefixes_openingTag hq hname (List.forall_mem_nil _),
        Protocol.removePrefixes_written hq hchildren,
        removePrefixes_closingTag hq hname, ih hmore, Content.qualify_none]
      rfl
  | inside name children more ih =>
      simp only [fill, Content.isPlain, List.isEmpty_nil, Bool.and_true, Bool.and_eq_true]
        at hplain
      obtain ⟨⟨hname, hchildren⟩, -⟩ := hplain
      simp only [front, List.append_assoc]
      rw [removePrefixes_openingTag hq hname (List.forall_mem_nil _), ih hchildren]
      rfl

include hplain hq in
/-- So are those after it. -/
theorem removePrefixes_back (rest : List Char) :
    removePrefixes 0 (k.back q ++ rest) = k.back none ++ removePrefixes 0 rest := by
  induction k generalizing rest with
  | here more =>
      have hmore : more.isPlain = true := hplain
      rw [back, Protocol.removePrefixes_written hq hmore, back, Content.qualify_none]
  | afterText before more ih => exact ih hplain rest
  | afterElement name children more ih =>
      simp only [fill, Content.isPlain, Bool.and_eq_true] at hplain
      exact ih hplain.2 rest
  | inside name children more ih =>
      simp only [fill, Content.isPlain, List.isEmpty_nil, Bool.and_true, Bool.and_eq_true]
        at hplain
      obtain ⟨⟨hname, hchildren⟩, hmore⟩ := hplain
      simp only [back, List.append_assoc]
      rw [ih hchildren, removePrefixes_closingTag hq hname,
        Protocol.removePrefixes_written hq hmore, Content.qualify_none]
      rfl

end Removal

/-- Before the missing text a tag ends, that of the root if no other. -/
theorem getLast?_front {k : Context} {value : String} (hmerged : (k.fill value).isMerged = true)
    (q : Option String) : ('>' :: k.front q).getLast? = some '>' := by
  have hend (before after : List Char) (h : ('>' :: after).getLast? = some '>') :
      ('>' :: (before ++ (['>'] ++ after))).getLast? = some '>' := by
    rw [← List.cons_append, List.getLast?_append_of_ne_nil _ (by simp)]
    exact h
  have htag (name : String) : openingTag name [] = '<' :: name.toList ++ ['>'] ∧
      closingTag name = '<' :: '/' :: name.toList ++ ['>'] := by
    simp [openingTag, closingTag]
  induction k with
  | here rest => rfl
  | afterText before more ih =>
      simp only [fill, Content.isMerged, Bool.and_eq_true, Bool.not_eq_true'] at hmerged
      have hne : more.front q ≠ [] := by
        cases more with
        | here rest => cases hmerged.1
        | afterText before more => cases hmerged.1
        | afterElement name children more => simp [front, openingTag]
        | inside name children rest => simp [front, openingTag]
      have hlast := ih hmerged.2
      rw [← List.singleton_append, List.getLast?_append_of_ne_nil _ hne] at hlast
      rw [front, ← List.cons_append, List.getLast?_append_of_ne_nil _ hne, hlast]
  | afterElement name children more ih =>
      simp only [fill, Content.isMerged, Bool.and_eq_true] at hmerged
      have hlast := hend (openingTag (qualified q name) [] ++ ((children.qualify q).written ++
        '<' :: '/' :: (qualified q name).toList)) (more.front q) (ih hmerged.2)
      rw [front, (htag _).2]
      simpa only [List.append_assoc, List.cons_append] using hlast
  | inside name children rest ih =>
      simp only [fill, Content.isMerged, Bool.and_eq_true] at hmerged
      have hlast := hend ('<' :: (qualified q name).toList) (children.front q) (ih hmerged.1)
      rw [front, (htag _).1]
      simpa only [List.append_assoc, List.cons_append] using hlast

/-- The namespaces of a response are removed, and of the text in it what looks like one. -/
theorem removeNamespaces_response {k : Context} {value : String}
    (hplain : (k.fill value).isPlain = true) (hmerged : (k.fill value).isMerged = true)
    {root : String} (hroot : isPlainName root = true) {q declared : Option String}
    (hq : ∀ p ∈ q, isPlainName p = true) (hdeclared : ∀ p ∈ declared, isPlainName p = true)
    (uri : String) (style : TextStyle) (cs : List Char) :
    removeNamespaces (k.response root q declared uri (style.written cs)).toList =
      openingTag root [] ++ (k.front none ++ (style.written (style.left cs) ++ k.back none) ++
        closingTag root) := by
  obtain ⟨hquoteFront, hquoteBack⟩ := quote_not_mem_around hplain hq
  obtain ⟨before, hbefore⟩ := List.getLast?_eq_some_iff.mp (getLast?_front hmerged q)
  let start := '<' :: (qualified q root).toList
  let stop := k.back q ++ closingTag (qualified q root)
  have hresponse : (k.response root q declared uri (style.written cs)).toList =
      start ++ (writtenAttribute (declarationName declared, uri) ++
        ('>' :: k.front q ++ (style.written cs ++ stop))) := by
    simp [response, openingTag, start, stop]
  have hstart : ∀ c ∈ start, isBlank c = false := by
    rw [List.forall_mem_cons]
    refine ⟨by decide, fun c hc => ?_⟩
    rcases of_mem_qualified hq hroot hc with rfl | hchar
    · decide
    · exact (isPlainChar_spec hchar).1
  have hquoteStop : '"' ∉ stop := by
    have hquoteRoot := quote_not_mem_qualified hq hroot
    simp [stop, hquoteBack, closingTag, hquoteRoot]
  have hquoteBefore : '"' ∉ before := by
    intro hmem
    have hquote : '"' ∈ '>' :: k.front q := hbefore ▸ List.mem_append_left _ hmem
    rw [List.mem_cons] at hquote
    exact hquote.elim (by decide) hquoteFront
  have hmiddle : removeDeclarations 0 ('>' :: k.front q ++ (style.written cs ++ stop)) =
      '>' :: k.front q ++ (removeDeclarations 0 (style.written cs) ++ stop) := by
    rw [hbefore, List.append_assoc, List.append_assoc, List.singleton_append,
      removeDeclarations_bracket hquoteBefore (.inr rfl),
      removeDeclarations_append_of_not_mem hquoteStop]
    rfl
  have hopening : start ++ ('>' :: k.front q ++ (removeDeclarations 0 (style.written cs) ++ stop)) =
      openingTag (qualified q root) [] ++
        (k.front q ++ (removeDeclarations 0 (style.written cs) ++ stop)) := by
    simp [openingTag, start]
  have hclosing := removePrefixes_closingTag hq hroot []
  rw [List.append_nil] at hclosing
  rw [removeNamespaces, hresponse, removeDeclarations_append hstart,
    removeDeclarations_declaration hdeclared, hmiddle, hopening,
    removePrefixes_openingTag hq hroot (List.forall_mem_nil _), removePrefixes_front hplain hq,
    TextStyle.removePrefixes_written, removePrefixes_back hplain hq, hclosing]
  simp [removePrefixes]

section Reading

variable {k : Context} {value : String}

/-- Before a tag stands a tag, unless it is the missing text. -/
theorem tagFirst_front (hnamed : (k.fill value).isNamed = true)
    (hbegins : (k.fill value).beginsWithText = false) (rest : List Char) :
    AtTag (k.front none ++ rest) ∧ TagFirst (tokens (k.front none ++ rest)) := by
  have hopening {name : String} (hname : isName name = true) (rest : List Char) :
      AtTag (openingTag name [] ++ rest) ∧ TagFirst (tokens (openingTag name [] ++ rest)) := by
    rw [tokens_of_next? (Token.next?_openingTag hname (by simp) rest)]
    exact ⟨atTag_cons _, trivial⟩
  cases k with
  | here more => cases hbegins
  | afterText before more => cases hbegins
  | afterElement name children more =>
      simp only [fill, Content.isNamed, Bool.and_eq_true] at hnamed
      simp only [front, List.append_assoc]
      exact hopening hnamed.1.1.1 _
  | inside name children more =>
      simp only [fill, Content.isNamed, Bool.and_eq_true] at hnamed
      simp only [front, List.append_assoc]
      exact hopening hnamed.1.1.1 _

/-- A response is read as the tree with a text, however the text is written. -/
theorem readsAs_fill (hnamed : (k.fill value).isNamed = true)
    (hmerged : (k.fill value).isMerged = true) {middle : List Char}
    (hmiddle : ReadsAs middle (Content.text value .nil).events) :
    ReadsAs (k.front none ++ (middle ++ k.back none)) (k.fill value).events := by
  induction k with
  | here more =>
      intro rest hrest htag
      simp only [fill, Content.isMerged, Bool.and_eq_true, Bool.not_eq_true'] at hmerged
      have hmore : more.isNamed = true := hnamed
      obtain ⟨hatTag, htagFirst⟩ := tagFirst_written hrest htag hmore hmerged.1
      have hback := readsAs_written hmore hmerged.2 rest hrest htag
      simp only [front, back, Content.qualify_none, List.nil_append, List.append_assoc]
      rw [hmiddle _ hatTag htagFirst, hback]
      simp [fill, Content.events]
  | afterText before more ih =>
      intro rest hrest htag
      simp only [fill, Content.isMerged, Bool.and_eq_true, Bool.not_eq_true'] at hmerged
      have hmore : (more.fill value).isNamed = true := hnamed
      obtain ⟨hatTag, htagFirst⟩ :=
        tagFirst_front hmore hmerged.1 (middle ++ (more.back none ++ rest))
      have hinner := ih hmore hmerged.2 rest hrest htag
      simp only [List.append_assoc] at hinner
      simp only [front, back, List.append_assoc]
      rw [eventsFrom_text before hatTag htagFirst, hinner]
      simp [fill, Content.events]
  | afterElement name children more ih =>
      intro rest hrest htag
      simp only [fill, Content.isNamed, List.all_nil, Bool.and_true, Bool.and_eq_true] at hnamed
      rw [fill, Content.isMerged, Bool.and_eq_true] at hmerged
      obtain ⟨⟨hname, hchildren⟩, hmore⟩ := hnamed
      have helement := (readsAs_written hchildren hmerged.1).element hname [] (by simp)
      have hinner := ih hmore hmerged.2 rest hrest htag
      simp only [List.append_assoc] at hinner
      simp only [front, back, Content.qualify_none, qualified, List.append_assoc]
      rw [helement, hinner]
      simp [fill, Content.events]
  | inside name children more ih =>
      intro rest hrest htag
      simp only [fill, Content.isNamed, List.all_nil, Bool.and_true, Bool.and_eq_true] at hnamed
      rw [fill, Content.isMerged, Bool.and_eq_true] at hmerged
      obtain ⟨⟨hname, hchildren⟩, hmore⟩ := hnamed
      have helement := (ih hchildren hmerged.1).element hname [] (by simp)
        (more.written ++ rest)
      have hback := readsAs_written hmore hmerged.2 rest hrest htag
      simp only [List.append_assoc] at helement
      simp only [front, back, Content.qualify_none, qualified, List.append_assoc]
      rw [helement, hback]
      simp [fill, Content.events]

end Reading

/-- The envelope of a response with any text in it is that of the tree in which what is left of
the text stands there. -/
theorem read?_response {k : Context} {style : TextStyle} {v left : String}
    (hleft : style.left v.toList = left.toList) (hshown : left.toList.all isSpace = false)
    (hpermits : style.Permits left.toList)
    (hplain : (k.fill left).isPlain = true) (hmerged : (k.fill left).isMerged = true)
    {root : String} (hroot : isPlainName root = true) {q declared : Option String}
    (hq : ∀ p ∈ q, isPlainName p = true) (hdeclared : ∀ p ∈ declared, isPlainName p = true)
    (uri : String) :
    Envelope.read? (k.response root q declared uri (style.written v.toList)) =
      Envelope.ofRoot? ⟨[], (k.fill left).parts⟩ := by
  have hremoved :=
    removeNamespaces_response hplain hmerged hroot hq hdeclared uri style v.toList
  have hread := readsAs_fill (isNamed_of_isPlain hplain) hmerged
    (style.readsAs_written hshown hpermits)
  rw [hleft] at hremoved
  have hroot := rootOf?_of_readsAs (isName_of_isPlainName hroot) [] (by simp) hread hremoved
  rw [String.ofList_toList] at hroot
  exact Envelope.read?_of_rootOf? hroot

/-- A response in which the text is written as any text is has this text. -/
theorem read?_escaped {k : Context} {value : String} (hplain : (k.fill value).isPlain = true)
    (hmerged : (k.fill value).isMerged = true) {root : String} (hroot : isPlainName root = true)
    {q declared : Option String} (hq : ∀ p ∈ q, isPlainName p = true)
    (hdeclared : ∀ p ∈ declared, isPlainName p = true) (uri : String) :
    Envelope.read? (k.response root q declared uri (escape value.toList)) =
      Envelope.ofRoot? ⟨[], (k.fill value).parts⟩ := by
  have halone : (Element.mk root [] (k.fill value)).alone.isPlain = true := by
    simp [Element.alone, Content.isPlain, hroot, hplain]
  have hwritten : k.response root q declared uri (escape value.toList) =
      String.ofList ((Element.mk root [] (k.fill value)).declaring q declared uri).written := by
    simp [response, Element.declaring, Element.written, written_fill]
  rw [hwritten]
  exact Envelope.read?_of_written (isNamed_of_isPlain halone) hmerged
    (Element.removeNamespaces_declaring halone hq hdeclared uri)

end MetadataHarvest.Markup.Context
