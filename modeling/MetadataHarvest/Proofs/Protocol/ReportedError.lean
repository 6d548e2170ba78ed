import MetadataHarvest.Protocol.FormatList
import MetadataHarvest.Protocol.RecordPage
import MetadataHarvest.Proofs.Protocol.Mirrored

/-!
# Reported errors

The reader of records looks for an error in the tree of a response, and the reader of formats in
its parts without namespaces. They see the same error in a response that both accept. Their codes
differ when only an attribute with a prefix gives one, and their messages when the error has child
elements with words or when a comment or a section stands in a word.
-/

namespace MetadataHarvest.Protocol

open Markup Text

section Names

variable {name name' : String} {front back : List Char}

theorem afterFirstColon_of_eq (hname : name.toList = front ++ ':' :: back) (hfront : ':' ∉ front) :
    afterFirstColon name = String.ofList back := by
  have hdrop : name.toList.dropWhile (· ≠ ':') = ':' :: back := by
    rw [hname]
    apply dropWhile_append_of_head?
    · intro c hc
      rw [decide_eq_true_eq]
      rintro rfl
      exact hfront hc
    · simp
  rw [afterFirstColon, hdrop]

theorem localPart_of_eq (hname : name.toList = front ++ ':' :: back) (hback : ':' ∉ back) :
    localPart name = String.ofList back := by
  have htake : (back.reverse ++ ':' :: front.reverse).takeWhile (· ≠ ':') = back.reverse := by
    apply takeWhile_append_of_head?
    · intro c hc
      rw [decide_eq_true_eq]
      rintro rfl
      exact hback (List.mem_reverse.mp hc)
    · simp
  have hreverse : name.toList.reverse = back.reverse ++ ':' :: front.reverse := by
    simp [hname]
  rw [localPart, hreverse, htake, List.reverse_reverse]

theorem localPart_of_not_mem (h : ':' ∉ name.toList) : localPart name = name := by
  have htake : name.toList.reverse.takeWhile (· ≠ ':') = name.toList.reverse := by
    rw [List.takeWhile_eq_self_iff]
    intro c hc
    rw [decide_eq_true_eq]
    rintro rfl
    exact h (List.mem_reverse.mp hc)
  rw [localPart, htake, List.reverse_reverse, String.ofList_toList]

/-- Of a name with at most one colon both readers know the same local part. -/
theorem afterFirstColon_of_isUnprefixed (h : IsUnprefixed name name')
    (hname : name.toList.count ':' ≤ 1) : afterFirstColon name' = localPart name := by
  obtain ⟨q, rfl, hq⟩ := h
  cases q with
  | none =>
      by_cases hmem : ':' ∈ name'.toList
      · obtain ⟨front, back, hsplit⟩ := List.append_of_mem hmem
        rw [qualified, hsplit, List.count_append, List.count_cons_self] at hname
        have hfront : ':' ∉ front := by
          rw [← List.count_eq_zero]
          omega
        have hback : ':' ∉ back := by
          rw [← List.count_eq_zero]
          omega
        rw [qualified, afterFirstColon_of_eq hsplit hfront, localPart_of_eq hsplit hback]
      · rw [qualified, afterFirstColon_of_not_mem hmem, localPart_of_not_mem hmem]
  | some p =>
      have hsplit : (qualified (some p) name').toList = p.toList ++ ':' :: name'.toList := by
        simp [qualified]
      have hnot : ':' ∉ name'.toList := by
        rw [hsplit, List.count_append, List.count_cons_self] at hname
        rw [← List.count_eq_zero]
        omega
      rw [afterFirstColon_of_not_mem hnot, localPart_of_eq hsplit hnot, String.ofList_toList]

end Names

section Code

variable {written written' : List Char} {attributes : List (String × String)} {key value : String}

theorem attributeKey_eq (name : String) :
    attributeKey name = if declaresNamespace name then name else afterFirstColon name := rfl

/-- The attributes with a key are the same without declarations of namespaces. -/
theorem filter_of_isUndeclared {raw raw' : List RawAttribute}
    (hundeclared : IsUndeclared written written') (hraw : rawAttributes? written = some raw)
    (hraw' : rawAttributes? written' = some raw') (hkey : declaresNamespace key = false) :
    raw'.filter (attributeKey ·.name = key) = raw.filter (attributeKey ·.name = key) := by
  have hnot (a : RawAttribute) (ha : attributeKey a.name = key) :
      declaresNamespace a.name = false := by
    rw [attributeKey_eq] at ha
    cases hdeclares : declaresNamespace a.name with
    | false => rfl
    | true =>
        rw [if_pos hdeclares] at ha
        rw [ha, hkey] at hdeclares
        cases hdeclares
  have hfilter (as : List RawAttribute) : as.filter (attributeKey ·.name = key) =
      (as.filter (!declaresNamespace ·.name)).filter (attributeKey ·.name = key) := by
    rw [List.filter_filter]
    apply List.filter_congr
    intro a _
    by_cases ha : attributeKey a.name = key
    · simp [ha, hnot a ha]
    · simp [ha]
  rw [IsUndeclared, hraw, hraw', Option.map_some, Option.map_some, Option.some.injEq] at hundeclared
  rw [hfilter, hundeclared, ← hfilter]

/-- The attributes of a tag are those as written with their references replaced. -/
theorem forall₂_of_attributes? (h : attributes? written = some attributes) :
    ∃ raw, rawAttributes? written = some raw ∧
      List.Forall₂ (fun (r : RawAttribute) a => a.1 = r.name ∧
        (unescape? r.value).map String.ofList = some a.2) raw attributes := by
  rw [attributes?, Option.bind_eq_some_iff] at h
  obtain ⟨raw, hraw, h⟩ := h
  refine ⟨raw, hraw, ?_⟩
  clear hraw
  induction raw generalizing attributes with
  | nil =>
      obtain rfl := Option.some.inj h
      exact .nil
  | cons r raw ih =>
      simp only [List.mapM_cons, Option.bind_eq_bind, Option.bind_eq_some_iff,
        Option.map_eq_some_iff] at h
      obtain ⟨-, ⟨cs, hcs, rfl⟩, more, hmore, heq⟩ := h
      obtain rfl := Option.some.inj heq
      exact .cons ⟨rfl, by rw [hcs, Option.map_some]⟩ (ih hmore)

/-- What is read by key and what is read by name are the same, unless an attribute with a prefix
has the key and is not empty. -/
theorem attributeText?_iff (h : attributes? written = some attributes)
    (hundeclared : IsUndeclared written written') (hkey : declaresNamespace key = false)
    (hcolon : attributeKey key = key) (hread : attributeText? key written' = some value) :
    value = (attributes.lookup key).getD "" ↔
      ∀ a ∈ attributes, attributeKey a.1 = key → a.1 ≠ key → a.2 = "" := by
  obtain ⟨raw, hraw, hrel⟩ := forall₂_of_attributes? h
  rw [attributeText?, Option.bind_eq_bind, Option.bind_eq_some_iff] at hread
  obtain ⟨raw', hraw', hread⟩ := hread
  rw [filter_of_isUndeclared hundeclared hraw hraw' hkey] at hread
  have hkept : List.Forall₂ (fun (r : RawAttribute) a => a.1 = r.name ∧
      (unescape? r.value).map String.ofList = some a.2) (raw.filter (attributeKey ·.name = key))
        (attributes.filter (attributeKey ·.1 = key)) :=
    List.rel_filter (fun r a hra => by simp [hra.1]) hrel
  have hlookup : (attributes.filter (attributeKey ·.1 = key)).lookup key = attributes.lookup key :=
    lookup_filter (by simp [hcolon]) attributes
  have hall : (∀ a ∈ attributes, attributeKey a.1 = key → a.1 ≠ key → a.2 = "") ↔
      ∀ a ∈ attributes.filter (attributeKey ·.1 = key), a.1 ≠ key → a.2 = "" := by
    simp only [List.mem_filter, decide_eq_true_eq, and_imp]
  rw [hall, ← hlookup]
  generalize raw.filter (attributeKey ·.name = key) = kept at hread hkept
  generalize attributes.filter (attributeKey ·.1 = key) = kept' at hkept
  cases hkept with
  | nil =>
      obtain rfl := Option.some.inj hread
      simp
  | @cons r a kept kept' hra hkept =>
      cases hkept with
      | cons _ _ => cases hread
      | nil =>
          obtain rfl := Option.some.inj (hread.symm.trans hra.2)
          obtain ⟨name, value⟩ := a
          rw [List.lookup_cons]
          by_cases hname : key = name
          · subst hname
            simp
          · simp [beq_false_of_ne hname, Ne.symm hname]

end Code

section Message

/-- The message of an error is the one text in it. -/
theorem words_message {i : Interior} {r : ReportedError} (h : ReportedError.read? i = some r)
    {texts : List (List Char)}
    (htexts : textsOf i.parts = texts.map fun text => some (String.ofList text)) :
    attributeText? "code" i.attributes = some r.code ∧
      words r.message.toList = texts.flatMap words := by
  simp only [ReportedError.read?, Option.bind_eq_bind, Option.bind_eq_some_iff] at h
  obtain ⟨code, hcode, f, hfields, hmessage⟩ := h
  have hall := (texts_read? hfields).trans htexts
  split at hmessage
  · next hnone =>
      obtain rfl := Option.some.inj hmessage
      rw [hnone, List.map_nil] at hall
      rw [List.map_eq_nil_iff.mp hall.symm]
      exact ⟨hcode, rfl⟩
  · next message hone =>
      obtain rfl := Option.some.inj hmessage
      rw [hone, List.map_cons, List.map_nil] at hall
      obtain ⟨text, rfl, hsome⟩ := List.map_eq_singleton_iff.mp hall.symm
      obtain rfl := Option.some.inj hsome
      refine ⟨hcode, ?_⟩
      simp [trim, words_trimWhile]
  · cases hmessage

end Message

section Agreement

variable {s : String} {root e : Element} {envelope : Envelope} {code message : String}

theorem advertisedFormats_eq_protocol_iff (h : Envelope.read? s = some envelope) :
    advertisedFormats s = .error (.protocol code message) ↔
      ∃ more, envelope.errors = ⟨code, message⟩ :: more := by
  obtain ⟨errors, formats, name⟩ := envelope
  rw [advertisedFormats, Envelope.read, h]
  cases errors with
  | nil =>
      cases formats with
      | none => exact ⟨nofun, nofun⟩
      | some formats => exact ⟨nofun, nofun⟩
  | cons r errors =>
      constructor
      · intro herror
        cases herror
        exact ⟨errors, rfl⟩
      · rintro ⟨more, heq⟩
        obtain ⟨rfl, -⟩ := List.cons.inj heq
        rfl

theorem read_of_parse (h : Element.parse s = .ok root) :
    RecordPage.read s = RecordPage.ofResponse root := by
  rw [RecordPage.read, h]

/-- What the reader of records does at an error. -/
theorem read_eq_protocol_iff (h : Element.parse s = .ok root) :
    RecordPage.read s = .error (.protocol code message) ↔
      ∃ e, root.childLocal? "error" = some e ∧ (e.attribute? "code").getD "" ≠ noRecordsMatch ∧
        code = (e.attribute? "code").getD "" ∧ message = e.text := by
  rw [read_of_parse h, RecordPage.ofResponse]
  cases root.childLocal? "error" with
  | none =>
      cases root.childLocal? "ListRecords" with
      | none => simp
      | some list => simp
  | some e =>
      simp only [Option.some.injEq, exists_eq_left']
      split
      · next hcode => simp [hcode]
      · next hcode => simp [hcode, eq_comm]

/-- An error is reported, or it says that there are no records. -/
theorem exists_error_iff (h : Element.parse s = .ok root) :
    (RecordPage.read s = .ok none ∨
      ∃ code message, RecordPage.read s = .error (.protocol code message)) ↔
        ∃ e, root.childLocal? "error" = some e := by
  rw [read_of_parse h, RecordPage.ofResponse]
  cases root.childLocal? "error" with
  | none =>
      cases root.childLocal? "ListRecords" with
      | none => simp
      | some list => simp
  | some e =>
      dsimp only
      split
      · simp
      · simp

theorem itemsOf_eq_nil {es : List Element} {parts : List Part} {key : String}
    (h : List.Forall₂ (fun e q => IsUnprefixed e.name q.1) es (elementsOf parts))
    (hcolons : ∀ e ∈ es, e.name.toList.count ':' ≤ 1) (hother : ∀ e ∈ es, e.localName ≠ key) :
    itemsOf (some key) parts = [] := by
  rw [itemsOf]
  generalize elementsOf parts = elements at h
  induction h with
  | nil => rfl
  | cons hname _ ih =>
      rw [List.forall_mem_cons] at hcolons hother
      have hkey := afterFirstColon_of_isUnprefixed hname hcolons.1
      rw [List.filter_cons_of_neg, ih hcolons.2 hother.2]
      rw [hkey, decide_eq_true_eq, Option.some.injEq]
      exact Ne.symm hother.1

variable (hparse : Element.parse s = .ok root) (henvelope : Envelope.read? s = some envelope)
  (hfreed : IsFreed s) (hcolons : ∀ e ∈ root.children, e.name.toList.count ':' ≤ 1)

include hparse henvelope hfreed hcolons

/-- A response without an error in its tree reports none. -/
theorem errors_eq_nil (hnone : root.childLocal? "error" = none) : envelope.errors = [] := by
  obtain ⟨name, attributes, parts, hroot, hread⟩ := Envelope.exists_root henvelope
  obtain ⟨name', attributes', parts', heq, hnames⟩ := exists_elements hparse hfreed hroot
  obtain ⟨rfl, rfl, rfl⟩ := Part.element.inj heq
  obtain ⟨f, hfields, herrors, -⟩ := Envelope.ofRoot?_eq_some_iff.mp hread
  rw [Element.childLocal?, List.find?_eq_none] at hnone
  rw [items_read? hfields, itemsOf_eq_nil hnames hcolons (by simpa using hnone)] at herrors
  exact (Option.some.inj herrors).symm

/-- The first error in the tree of a response is the first one that is reported. -/
theorem exists_errors_eq_cons (hsome : root.childLocal? "error" = some e) :
    ∃ (spelled : List Token) (name : String) (i : Interior) (r : ReportedError)
      (more : List ReportedError), MeetsFirst e spelled (documentTokens s.toList) ∧
        MirrorsElement spelled e name i ∧ ReportedError.read? i = some r ∧
        envelope.errors = r :: more := by
  rw [Element.childLocal?, List.find?_eq_some_iff_append] at hsome
  obtain ⟨hlocal, front, back, hchildren, hfront⟩ := hsome
  have hlocal : e.localName = "error" := by simpa using hlocal
  have hother : ∀ d ∈ front, d.localName ≠ "error" := by simpa using hfront
  obtain ⟨name, attributes, parts, hroot, hread⟩ := Envelope.exists_root henvelope
  obtain ⟨spelled, hmeets, name', attributes', before, name'', i, after, heq, hbefore, helement⟩ :=
    exists_child hparse hfreed hroot hchildren (hlocal ▸ hother)
  obtain ⟨rfl, rfl, rfl⟩ := Part.element.inj heq
  obtain ⟨f, hfields, herrors, -⟩ := Envelope.ofRoot?_eq_some_iff.mp hread
  rw [hchildren, List.forall_mem_append, List.forall_mem_cons] at hcolons
  have hkey : afterFirstColon name'' = "error" :=
    (afterFirstColon_of_isUnprefixed helement.name hcolons.2.1).trans hlocal
  have hitems : itemsOf (some "error") (before ++ .element name'' i.attributes i.parts :: after) =
      i :: itemsOf (some "error") after := by
    rw [itemsOf_append, itemsOf_eq_nil hbefore hcolons.1 hother, List.nil_append, itemsOf,
      elementsOf_element, List.filter_cons_of_pos (by simp [hkey])]
    rfl
  rw [items_read? hfields, hitems] at herrors
  simp only [List.mapM_cons, Option.bind_eq_bind, Option.bind_eq_some_iff] at herrors
  obtain ⟨r, hr, more, -, hmore⟩ := herrors
  exact ⟨spelled, name'', i, r, more, hmeets, helement, hr, (Option.some.inj hmore).symm⟩

end Agreement

/-- Of a response that both accept, both see an error or none does. The codes that they report are
the same unless an attribute with a prefix gives one, and the messages have the same words unless
a child element of the error has words or a word is cut by a comment, an instruction or a section.
In any case the message without namespaces has the letters of the error's own character data. -/
theorem reportedErrors_agree {s : String} {root : Element} {envelope : Envelope}
    (hparse : Element.parse s = .ok root)
    (henvelope : Envelope.read? s = some envelope) (hfreed : IsFreed s)
    (hcolons : ∀ e ∈ root.children, e.name.toList.count ':' ≤ 1) :
    ((∃ code message, advertisedFormats s = .error (.protocol code message)) ↔
      RecordPage.read s = .ok none ∨
        ∃ code message, RecordPage.read s = .error (.protocol code message)) ∧
    ∀ code message code' message', RecordPage.read s = .error (.protocol code message) →
      advertisedFormats s = .error (.protocol code' message') →
      ∃ e spelled, root.childLocal? "error" = some e ∧
        MeetsFirst e spelled (documentTokens s.toList) ∧
        (code' = code ↔
          ∀ a ∈ e.attributes, attributeKey a.1 = "code" → a.1 ≠ "code" → a.2 = "") ∧
        (words message'.toList = words message.toList ↔
          (∀ d ∈ e.children, d.content.words = []) ∧ ¬CutsWord spelled) ∧
        (words message'.toList).flatten = e.content.ownWords.flatten := by
  constructor
  · rw [exists_error_iff hparse]
    constructor
    · rintro ⟨code, message, hreported⟩
      obtain ⟨more, herrors⟩ := (advertisedFormats_eq_protocol_iff henvelope).mp hreported
      rw [← Option.isSome_iff_exists, ← Option.ne_none_iff_isSome]
      intro hnone
      rw [errors_eq_nil hparse henvelope hfreed hcolons hnone] at herrors
      cases herrors
    · rintro ⟨e, hsome⟩
      obtain ⟨-, -, -, r, more, -, -, -, herrors⟩ :=
        exists_errors_eq_cons hparse henvelope hfreed hcolons hsome
      exact ⟨r.code, r.message, (advertisedFormats_eq_protocol_iff henvelope).mpr ⟨more, herrors⟩⟩
  · intro code message code' message' hreader hformats
    obtain ⟨e, hsome, -, rfl, rfl⟩ := (read_eq_protocol_iff hparse).mp hreader
    obtain ⟨spelled, name, i, r, more, hmeets, helement, hr, herrors⟩ :=
      exists_errors_eq_cons hparse henvelope hfreed hcolons hsome
    obtain ⟨more', herrors'⟩ := (advertisedFormats_eq_protocol_iff henvelope).mp hformats
    obtain ⟨rfl, -⟩ := List.cons.inj (herrors'.symm.trans herrors)
    obtain ⟨texts, htexts, hletters, hwords⟩ := helement.texts
    obtain ⟨hcode, hmessage⟩ := words_message hr htexts
    obtain ⟨written, hattributes, hundeclared⟩ := helement.attributes
    refine ⟨e, spelled, hsome, hmeets, ?_, ?_, ?_⟩
    · exact attributeText?_iff hattributes hundeclared (by decide) (by decide) hcode
    · rw [hmessage, Element.text, String.toList_ofList,
        words_joinWords e.content.isWord_of_mem_words]
      exact hwords
    · rw [hmessage, hletters]

section Example

/-- The attributes of an error. -/
def verbCode : List (String × String) := [("code", "badVerb")]

/-- An answer that is an error with this between its tags. -/
def errorAnswer (q : Option String) (bindings : List (String × String)) (data : List Char) :
    List Char :=
  openingTag (qualified q "OAI-PMH") bindings ++ (openingTag (qualified q "error") verbCode ++
    (data ++ (closingTag (qualified q "error") ++ closingTag (qualified q "OAI-PMH"))))

def errorTokens (q : Option String) (bindings : List (String × String)) (data : List Token) :
    List Token :=
  .opening (qualified q "OAI-PMH") (bindings.flatMap writtenAttribute) false ::
    .opening (qualified q "error") (verbCode.flatMap writtenAttribute) false ::
      (data ++ [.closing (qualified q "error"), .closing (qualified q "OAI-PMH")])

/-- The tree of such an answer. -/
def errorRoot (q : Option String) (bindings : List (String × String)) (c : Content) : Element :=
  ⟨qualified q "OAI-PMH", bindings, .element (qualified q "error") verbCode c .nil⟩

variable {q : Option String} {bindings : List (String × String)} {data : List Char}
  {dataTokens : List Token}

theorem errorAnswer_escape (q : Option String) (bindings : List (String × String))
    (message : String) :
    errorAnswer q bindings (escape message.toList) =
      (errorRoot q bindings (.text message .nil)).written := by
  simp [errorAnswer, errorRoot, Element.written, Content.written]

theorem documentTokens_errorAnswer (hroot : isName (qualified q "OAI-PMH") = true)
    (herror : isName (qualified q "error") = true)
    (hbindings : ∀ a ∈ bindings, isName a.1 = true)
    (hdata : ∀ rest, AtTag rest → tokens (data ++ rest) = dataTokens ++ tokens rest) :
    documentTokens (errorAnswer q bindings data) = errorTokens q bindings dataTokens := by
  have hdocument : documentTokens (errorAnswer q bindings data) =
      tokens (errorAnswer q bindings data) := by
    simp [documentTokens, errorAnswer, openingTag]
  have htag : AtTag (closingTag (qualified q "error") ++ closingTag (qualified q "OAI-PMH")) :=
    atTag_cons _
  have hclosing := Token.next?_closingTag hroot []
  rw [List.append_nil] at hclosing
  rw [hdocument, errorAnswer, tokens_of_next? (Token.next?_openingTag hroot hbindings _),
    tokens_of_next? (Token.next?_openingTag herror (by decide) _), hdata _ htag,
    tokens_of_next? (Token.next?_closingTag herror _), tokens_of_next? hclosing, tokens_nil]
  rfl

theorem parse_errorAnswer {c : Content} (hbindings : areAttributes bindings = true)
    (htokens : documentTokens (errorAnswer q bindings data) = errorTokens q bindings dataTokens)
    (hc : c.Spelled dataTokens) :
    Element.parse (String.ofList (errorAnswer q bindings data)) =
      .ok (errorRoot q bindings c) := by
  have herror : Content.Spelled (.element (qualified q "error") verbCode c .nil) _ :=
    .element (attributes?_written (by decide)) hc .nil
  have hroot : Element.Spelled (errorRoot q bindings c) _ :=
    .tagged (attributes?_written hbindings) herror
  have hrow : Row Token.isOutside [errorRoot q bindings c] _ := .element hroot .nil
  apply Element.parse_of_row
  rw [String.toList_ofList, htokens]
  simpa [errorTokens] using hrow

/-- An error with one text is read as it is. -/
theorem read?_errorAnswer {body message : String}
    (htokens : documentTokens (removeNamespaces body.toList) = errorTokens none [] dataTokens)
    (hdata : eventsFrom .empty (dataTokens ++ [.closing "error", .closing "OAI-PMH"]) =
      [.text (some message), .closing "error", .closing "OAI-PMH"]) :
    Envelope.read? body = some ⟨[⟨"badVerb", trimmed message⟩], none, none⟩ := by
  obtain ⟨value, hraw, hvalue⟩ : ∃ value, rawAttributes? (verbCode.flatMap writtenAttribute) =
      some [⟨"code", value⟩] ∧ unescape? value = some "badVerb".toList :=
    ⟨_, rawAttributes?_written (by decide), unescape?_escape _⟩
  have hroot : rootOf? body = some (.element "OAI-PMH" []
      [.element "error" (verbCode.flatMap writtenAttribute) [.text (some message)]]) := by
    rw [rootOf?, htokens, errorTokens, eventsFrom, eventsFrom, qualified, qualified, hdata]
    rfl
  have hcode : attributeText? "code" (verbCode.flatMap writtenAttribute) = some "badVerb" := by
    have hkey : attributeKey "code" = "code" := by decide
    simp [attributeText?, hraw, hkey, hvalue]
  have herror : ReportedError.read? ⟨verbCode.flatMap writtenAttribute, [.text (some message)]⟩ =
      some ⟨"badVerb", trimmed message⟩ := by
    simp [ReportedError.read?, hcode, Fields.read?, hraw, Fields.step?, Fields.empty]
  have hkey : afterFirstColon "error" = "error" := by decide
  rw [Envelope.read?_of_rootOf? hroot]
  simp [Envelope.ofRoot?, Fields.read?, Fields.step?, Fields.empty, hkey, herror]

/-- Character data without references is one token. -/
theorem tokens_plain (hne : data ≠ []) (hbracket : '<' ∉ data) (rest : List Char)
    (hrest : AtTag rest) : tokens (data ++ rest) = [.text data] ++ tokens rest :=
  tokens_of_next? (Token.next?_text hne hbracket hrest)

/-- What the reader of records makes of such an answer. -/
theorem read_of_parse_errorRoot {body : String} {c : Content}
    (hparse : Element.parse body = .ok (errorRoot q bindings c)) :
    RecordPage.read body = .error (.protocol "badVerb" (String.ofList (joinWords c.words))) := by
  have hlocal : localPart (qualified q "error") = "error" := by
    cases q with
    | none => exact localPart_of_not_mem (by decide)
    | some p =>
        have hname : (qualified (some p) "error").toList = p.toList ++ ':' :: "error".toList := by
          simp [qualified]
        rw [localPart_of_eq hname (by decide), String.ofList_toList]
  have hcode : "badVerb" ≠ noRecordsMatch := by decide
  rw [read_eq_protocol_iff hparse]
  refine ⟨⟨qualified q "error", verbCode, c⟩, ?_, hcode, rfl, rfl⟩
  simp [Element.childLocal?, errorRoot, Element.children, Content.elements, Element.localName,
    hlocal]

theorem advertisedFormats_of_read? {body message : String}
    (h : Envelope.read? body = some ⟨[⟨"badVerb", message⟩], none, none⟩) :
    advertisedFormats body = .error (.protocol "badVerb" message) :=
  (advertisedFormats_eq_protocol_iff h).mpr ⟨[], rfl⟩

/-- An error with a prefix at every name. -/
def prefixedError : String :=
  String.ofList (errorAnswer (some "o") [("xmlns:o", "u")] ['n', 'o'])

theorem reportedErrors_agree_prefixedError :
    let root := errorRoot (some "o") [("xmlns:o", "u")] (.text "no" .nil)
    Element.parse prefixedError = .ok root ∧
      Envelope.read? prefixedError = some ⟨[⟨"badVerb", "no"⟩], none, none⟩ ∧
      IsFreed prefixedError ∧ (∀ e ∈ root.children, e.name.toList.count ':' ≤ 1) ∧
      RecordPage.read prefixedError = .error (.protocol "badVerb" "no") ∧
      advertisedFormats prefixedError = .error (.protocol "badVerb" "no") ∧
      ∃ e spelled, root.childLocal? "error" = some e ∧
        MeetsFirst e spelled (documentTokens prefixedError.toList) ∧
        ("badVerb" = "badVerb" ↔
          ∀ a ∈ e.attributes, attributeKey a.1 = "code" → a.1 ≠ "code" → a.2 = "") ∧
        (words "no".toList = words "no".toList ↔
          (∀ d ∈ e.children, d.content.words = []) ∧ ¬CutsWord spelled) ∧
        (words "no".toList).flatten = e.content.ownWords.flatten := by
  intro root
  have htokens : documentTokens prefixedError.toList =
      errorTokens (some "o") [("xmlns:o", "u")] [.text ['n', 'o']] := by
    rw [prefixedError, String.toList_ofList]
    exact documentTokens_errorAnswer (by decide) (by decide) (by decide)
      (tokens_plain (by simp) (by decide))
  have hremoved : removeNamespaces prefixedError.toList = errorAnswer none [] ['n', 'o'] := by
    rw [prefixedError, String.toList_ofList]
    decide
  have htokens' : documentTokens (removeNamespaces prefixedError.toList) =
      errorTokens none [] [.text ['n', 'o']] := by
    rw [hremoved]
    exact documentTokens_errorAnswer (by decide) (by decide) (by decide)
      (tokens_plain (by simp) (by decide))
  have hno : unescape? ['n', 'o'] = some ['n', 'o'] := unescape?_escape ['n', 'o']
  have hparse : Element.parse prefixedError = .ok root := by
    rw [prefixedError, String.toList_ofList] at htokens
    exact parse_errorAnswer (by decide) htokens (.text (by decide) hno .nil)
  have henvelope :
      Envelope.read? prefixedError = some ⟨[⟨"badVerb", trimmed "no"⟩], none, none⟩ := by
    apply read?_errorAnswer htokens'
    rw [List.singleton_append, eventsFrom, hno]
    rfl
  have hfreed : IsFreed prefixedError := by
    have hprefix : ∀ p ∈ some "o", isPlainName p = true := by decide
    have hbound : IsPlainAttribute ("xmlns:o", "u") := .declaration hprefix rfl
    have hcode : IsPlainAttribute ("code", "badVerb") := by
      refine .other (by decide) fun c hc => ?_
      obtain rfl : 'b' = c := by simpa using hc
      decide
    have herror : Content.Freed root.content (errorRoot none [] (.text "no" .nil)).content :=
      .element hprefix (by decide) (by decide) (List.forall_mem_singleton.mpr hcode)
        (.text "no" rfl .nil) .nil
    have hroot : Content.Freed root.alone (errorRoot none [] (.text "no" .nil)).alone :=
      .element hprefix (by decide) (by decide) (List.forall_mem_singleton.mpr hbound) herror .nil
    have hwritten : ['n', 'o'] = escape "no".toList := by decide
    rw [prefixedError, hwritten, errorAnswer_escape]
    exact isFreed_written hroot
  have hcolons : ∀ e ∈ root.children, e.name.toList.count ':' ≤ 1 := by decide
  have hread : RecordPage.read prefixedError = .error (.protocol "badVerb" "no") :=
    read_of_parse_errorRoot hparse
  have hformats := advertisedFormats_of_read? henvelope
  exact ⟨hparse, henvelope, hfreed, hcolons, hread, hformats,
    (reportedErrors_agree hparse henvelope hfreed hcolons).2 _ _ _ _ hread hformats⟩

/-- An error with a comment in the one word of its message. -/
def notedError : String :=
  String.ofList (errorAnswer none [] (['a'] ++ (writtenComment "note".toList ++ ['b'])))

/-- The two messages are not the same when there is a comment in a word. -/
theorem not_reportedErrors_agree :
    ¬∀ (s : String) (root : Element) (envelope : Envelope), Element.parse s = .ok root →
      Envelope.read? s = some envelope → ∀ code message code' message',
        RecordPage.read s = .error (.protocol code message) →
        advertisedFormats s = .error (.protocol code' message') →
        code' = code ∧ words message'.toList = words message.toList := by
  intro h
  have hdata (rest : List Char) (hrest : AtTag rest) :
      tokens ((['a'] ++ (writtenComment "note".toList ++ ['b'])) ++ rest) =
        [.text ['a'], .comment "note".toList, .text ['b']] ++ tokens rest := by
    have hnote : AtTag (writtenComment "note".toList ++ (['b'] ++ rest)) := atTag_cons _
    rw [List.append_assoc, List.append_assoc, tokens_plain (by simp) (by decide) _ hnote,
      tokens_of_next? (Token.next?_comment (by decide) _),
      tokens_plain (by simp) (by decide) _ hrest]
    rfl
  have htokens : documentTokens notedError.toList =
      errorTokens none [] [.text ['a'], .comment "note".toList, .text ['b']] := by
    rw [notedError, String.toList_ofList]
    exact documentTokens_errorAnswer (by decide) (by decide) (by decide) hdata
  have hremoved : removeNamespaces notedError.toList = notedError.toList := by
    rw [notedError, String.toList_ofList]
    decide
  have ha : unescape? ['a'] = some ['a'] := unescape?_escape ['a']
  have hb : unescape? ['b'] = some ['b'] := unescape?_escape ['b']
  have hparse : Element.parse notedError =
      .ok (errorRoot none [] (.text "a" (.text "b" .nil))) := by
    rw [notedError, String.toList_ofList] at htokens
    exact parse_errorAnswer (by decide) htokens
      (.text (by decide) ha (.skipped rfl (.text (by decide) hb .nil)))
  have henvelope :
      Envelope.read? notedError = some ⟨[⟨"badVerb", trimmed "ab"⟩], none, none⟩ := by
    apply read?_errorAnswer (by rw [hremoved, htokens])
    simp only [List.cons_append, List.nil_append, eventsFrom, ha, hb]
    rfl
  have hread := read_of_parse_errorRoot hparse
  have hsame := (h _ _ _ hparse henvelope _ _ _ _ hread (advertisedFormats_of_read? henvelope)).2
  exact absurd hsame (by decide)

end Example

end MetadataHarvest.Protocol
