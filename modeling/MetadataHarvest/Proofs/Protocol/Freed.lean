import MetadataHarvest.Proofs.Markup.Prefix
import MetadataHarvest.Proofs.Markup.Notes
import MetadataHarvest.Proofs.Protocol.Lookalike

/-!
# Responses of which only the tags change

Namespaces are removed from the characters of a response. In general this may change its texts,
but a tree in which no attribute value goes on as a declaration changes in its tags alone, whatever
its texts and its prefixes are.

## Implementation notes

The tokens of the two texts are related one by one, so that a reader of the second text can be
followed along the tree of the first one. What is written is followed piece by piece: a declaration
begins in none of them but its own, since before its value it has no angle bracket, and ends with a
blank or the equals sign.
-/

namespace MetadataHarvest.Markup

open MetadataHarvest.Text Protocol

/-- The second name is the first one, or the first one without its prefix. -/
def IsUnprefixed (name name' : String) : Prop :=
  ∃ q : Option String, name = qualified q name' ∧ ∀ p ∈ q, ':' ∉ p.toList

/-- The second text has the attributes of the first one, up to declarations of namespaces. -/
def IsUndeclared (written written' : List Char) : Prop :=
  (rawAttributes? written').map (·.filter (!declaresNamespace ·.name)) =
    (rawAttributes? written).map (·.filter (!declaresNamespace ·.name))

/-- The second token is the first one, but for the prefix and the declarations in a tag and for
what a note says. -/
inductive Token.Freed : Token → Token → Prop
  | text (raw : List Char) : Freed (.text raw) (.text raw)
  | cdata (content : List Char) : Freed (.cdata content) (.cdata content)
  | note {t t' : Token} (ht : t.isNote = true) (ht' : t'.isNote = true) : Freed t t'
  | doctype (content content' : List Char) : Freed (.doctype content) (.doctype content')
  | opening {name name' : String} {written written' : List Char} {closed : Bool}
      (hname : IsUnprefixed name name') (hattributes : IsUndeclared written written') :
      Freed (.opening name written closed) (.opening name' written' closed)
  | closing {name name' : String} (hname : IsUnprefixed name name') :
      Freed (.closing name) (.closing name')

/-- An attribute that binds a plain prefix, or one with a value after which no declaration goes
on. -/
inductive IsPlainAttribute (a : String × String) : Prop
  | declaration {declared : Option String} (hbinds : ∀ p ∈ declared, isPlainName p = true)
      (hname : a.1 = declarationName declared) : IsPlainAttribute a
  | other (hname : declaresNamespace a.1 = false)
      (hvalue : ∀ c ∈ a.2.toList.getLast?, isBlank c = false ∧ c ≠ '=') : IsPlainAttribute a

/-- The second content is the first one without the prefixes and the declarations of its
elements. -/
inductive Content.Freed : Content → Content → Prop
  | nil : Freed .nil .nil
  | text (value : String) {c c' : Content} (hbegins : c.beginsWithText = false)
      (h : Freed c c') : Freed (.text value c) (.text value c')
  | element {q : Option String} {name : String} {attributes : List (String × String)}
      {children children' rest rest' : Content} (hq : ∀ p ∈ q, isPlainName p = true)
      (hname : isPlainName name = true) (hattributes : areAttributes attributes = true)
      (hplain : ∀ a ∈ attributes, IsPlainAttribute a) (hchildren : Freed children children')
      (hrest : Freed rest rest') :
      Freed (.element (qualified q name) attributes children rest)
        (.element name (undeclared attributes) children' rest')

/-- Content without its declarations. -/
def Content.undeclare : Content → Content
  | .nil => .nil
  | .text value rest => .text value rest.undeclare
  | .element name attributes children rest =>
    .element name (undeclared attributes) children.undeclare rest.undeclare

theorem undeclared_cons (a : String × String) (attributes : List (String × String)) :
    undeclared (a :: attributes) =
      if declaresNamespace a.1 then undeclared attributes else a :: undeclared attributes := by
  cases h : declaresNamespace a.1 <;> simp [undeclared, h]

theorem getLast?_escape {cs : List Char} {c : Char} (h : c ∈ (escape cs).getLast?) :
    c ∈ cs.getLast? ∨ c = ';' := by
  obtain rfl | ⟨cs, d, rfl⟩ := List.eq_nil_or_concat' cs
  · cases h
  · have hwritten : escape (cs ++ [d]) = escape cs ++ escapeChar d := by simp [escape]
    rw [hwritten] at h
    obtain ⟨name, hd, -⟩ | ⟨hd, -⟩ := escapeChar_cases d
    · rw [hd, ← List.cons_append, ← List.append_assoc, List.getLast?_concat] at h
      exact .inr (Option.some.inj h).symm
    · rw [hd, List.getLast?_concat] at h
      exact .inl (by rw [List.getLast?_concat]; exact h)

end MetadataHarvest.Markup

namespace MetadataHarvest.Protocol

open Markup Text

section Declarations

variable {rest : List Char} {a : String × String} {name : String}
  {attributes : List (String × String)} {c c' : Content}

theorem isBlank_of_isName (h : isName name = true) : ∀ c ∈ name.toList, isBlank c = false := by
  intro c hc
  have hchar := isNameChar_of_isName h c hc
  by_cases hcolon : c = ':'
  · rw [hcolon]
    decide
  · have hplain : isPlainChar c = true := by
      simpa [Markup.isNameChar, isPlainChar, hcolon] using hchar
    exact (isPlainChar_spec hplain).1

/-- A text that has no end of a declaration's front stays up to the quotation mark after it. -/
theorem removeDeclarations_quotation {value : List Char} (h : '"' ∉ value)
    (hlast : ∀ c ∈ value.getLast?, isBlank c = false ∧ c ≠ '=') (rest : List Char) :
    removeDeclarations 0 (value ++ '"' :: rest) = value ++ '"' :: removeDeclarations 0 rest := by
  have hstop : removeDeclarations 0 ('"' :: rest) = '"' :: removeDeclarations 0 rest :=
    removeDeclarations_of_none fun hm => absurd hm (by decide)
  rw [removeDeclarations_append_of_none ?_, hstop]
  intro tail htail
  rw [Option.eq_none_iff_forall_ne_some]
  intro after hafter
  obtain ⟨d, hd, hsplit⟩ := afterDeclaration?_eq_some_iff.mp hafter
  obtain ⟨head, quoted, rfl, hhead, c, hc, hends⟩ := hd.exists_head
  have hquote : '"' ∉ head := fun hmem => absurd (hhead _ hmem) (by decide)
  rw [List.append_assoc, List.cons_append] at hsplit
  obtain ⟨rfl, -⟩ := append_inj_of_not_mem (fun hmem => h (htail.subset hmem)) hquote hsplit
  obtain ⟨front, rfl⟩ := htail
  have hne : tail ≠ [] := by
    rintro rfl
    cases hc
  rw [List.getLast?_append_of_ne_nil _ hne] at hlast
  obtain ⟨hblank, hequals⟩ := hlast c hc
  rcases hends with hends | hends
  · rw [hblank] at hends
    cases hends
  · exact hequals hends

/-- An attribute that declares no namespace is not taken for a declaration. -/
theorem afterDeclaration?_attribute (hname : isName name = true)
    (hdeclares : declaresNamespace name = false) (more : List Char) :
    afterDeclaration? (name.toList ++ '=' :: more) = none := by
  rw [Option.eq_none_iff_forall_ne_some]
  intro after hafter
  obtain ⟨d, hd, hsplit⟩ := afterDeclaration?_eq_some_iff.mp hafter
  have hequals : '=' ∉ name.toList := fun hmem =>
    absurd (isNameChar_of_isName hname _ hmem) (by decide)
  have hblank := isBlank_of_isName hname
  cases hd with
  | @intro space bound gap gap' value hspace hbound hgap hgap' hvalue =>
      have hblanks {blanks : List Char} (h : ∀ c ∈ blanks, isBlank c = true) : '=' ∉ blanks :=
        fun hmem => absurd (h _ hmem) (by decide)
      have hfront : '=' ∉ space ++ ("xmlns".toList ++ (bound ++ gap)) := by
        have hbound : '=' ∉ bound := by
          cases hbound with
          | default => exact List.not_mem_nil
          | named hne hname hends =>
              rw [List.mem_cons, not_or]
              exact ⟨by decide, fun hmem => absurd (hname _ hmem) (by decide)⟩
        simp [hblanks hspace, hbound, hblanks hgap]
      have hcut : name.toList ++ '=' :: more =
          (space ++ ("xmlns".toList ++ (bound ++ gap))) ++
            '=' :: (gap' ++ '"' :: (value ++ '"' :: after)) := by
        rw [hsplit]
        simp
      obtain ⟨heq, -⟩ := append_inj_of_not_mem hequals hfront hcut
      rw [heq] at hblank
      have hnil {blanks : List Char} (h : ∀ c ∈ blanks, isBlank c = true)
          (hmem : ∀ c ∈ blanks, c ∈ space ++ ("xmlns".toList ++ (bound ++ gap))) :
          blanks = [] := by
        rw [List.eq_nil_iff_forall_not_mem]
        intro c hc
        exact absurd (h c hc) (by simp [hblank c (hmem c hc)])
      obtain rfl := hnil hspace (by simp +contextual)
      obtain rfl := hnil hgap (by simp +contextual)
      rw [declaresNamespace, Bool.or_eq_false_iff, decide_eq_false_iff_not] at hdeclares
      cases hbound with
      | default => exact hdeclares.1 (String.toList_inj.mp (by simpa using heq))
      | named hne hname hends => simp [heq] at hdeclares

/-- So it stays, unless its value ends as if a declaration went on after it. -/
theorem removeDeclarations_attribute (hname : isName a.1 = true)
    (hdeclares : declaresNamespace a.1 = false)
    (hvalue : ∀ c ∈ a.2.toList.getLast?, isBlank c = false ∧ c ≠ '=') (rest : List Char) :
    removeDeclarations 0 (writtenAttribute a ++ rest) =
      writtenAttribute a ++ removeDeclarations 0 rest := by
  have hlast : ∀ c ∈ (escape a.2.toList).getLast?, isBlank c = false ∧ c ≠ '=' := by
    intro c hc
    obtain hc | rfl := getLast?_escape hc
    · exact hvalue c hc
    · decide
  have hfront : ∀ c ∈ a.1.toList ++ ['=', '"'], isBlank c = false := by
    simp only [List.forall_mem_append, List.forall_mem_cons]
    exact ⟨isBlank_of_isName hname, by decide, by decide, List.forall_mem_nil _⟩
  have hwritten (more : List Char) : writtenAttribute a ++ more =
      ' ' :: ((a.1.toList ++ ['=', '"']) ++ (escape a.2.toList ++ '"' :: more)) := by
    simp [writtenAttribute]
  have hnone (more : List Char) :
      afterDeclaration? ((a.1.toList ++ ['=', '"']) ++ more) = none := by
    have hnone := afterDeclaration?_attribute hname hdeclares ('"' :: more)
    simpa using hnone
  rw [hwritten, hwritten, removeDeclarations_of_none fun _ => hnone _,
    removeDeclarations_append hfront, removeDeclarations_quotation (quote_not_mem_escape _) hlast]

/-- Of the attributes of a tag the declarations are removed. -/
theorem removeDeclarations_attributes (hnames : ∀ a ∈ attributes, isName a.1 = true)
    (hplain : ∀ a ∈ attributes, IsPlainAttribute a) (rest : List Char) :
    removeDeclarations 0 (attributes.flatMap writtenAttribute ++ rest) =
      (undeclared attributes).flatMap writtenAttribute ++ removeDeclarations 0 rest := by
  induction attributes with
  | nil => rfl
  | cons a attributes ih =>
      rw [List.forall_mem_cons] at hnames hplain
      have hmore := ih hnames.2 hplain.2
      rw [List.flatMap_cons, List.append_assoc, undeclared_cons]
      cases hplain.1 with
      | @declaration declared hbinds hname =>
          obtain ⟨name, uri⟩ := a
          obtain rfl : name = declarationName declared := hname
          have hdeclares : declaresNamespace (declarationName declared) = true := by
            cases declared with
            | none => rfl
            | some p => simp [declaresNamespace, declarationName]
          rw [removeDeclarations_declaration hbinds, hmore, if_pos hdeclares]
      | other hname hvalue =>
          rw [removeDeclarations_attribute hnames.1 hname hvalue, hmore, if_neg (by simp [hname]),
            List.flatMap_cons, List.append_assoc]

theorem removeDeclarations_openingTag (hname : isName name = true)
    (hattributes : areAttributes attributes = true)
    (hplain : ∀ a ∈ attributes, IsPlainAttribute a) (rest : List Char) :
    removeDeclarations 0 (openingTag name attributes ++ rest) =
      openingTag name (undeclared attributes) ++ removeDeclarations 0 rest := by
  have hfront : ∀ c ∈ '<' :: name.toList, isBlank c = false :=
    List.forall_mem_cons.mpr ⟨by decide, isBlank_of_isName hname⟩
  have hstop : ∀ c ∈ ['>'], isBlank c = false := List.forall_mem_singleton.mpr (by decide)
  simp only [openingTag, List.append_assoc]
  rw [removeDeclarations_append hfront, removeDeclarations_attributes
    (isName_of_areAttributes hattributes) hplain, removeDeclarations_append hstop]

theorem removeDeclarations_closingTag (hname : isName name = true) (rest : List Char) :
    removeDeclarations 0 (closingTag name ++ rest) =
      closingTag name ++ removeDeclarations 0 rest := by
  apply removeDeclarations_append
  simp only [closingTag, List.forall_mem_append, List.forall_mem_cons]
  exact ⟨⟨by decide, by decide, isBlank_of_isName hname⟩, by decide, List.forall_mem_nil _⟩

/-- Content that does not begin with character data begins with a tag. -/
theorem atTag_written (hbegins : c.beginsWithText = false) (hrest : AtTag rest) :
    AtTag (c.written ++ rest) := by
  cases c with
  | nil => exact hrest
  | text value more => cases hbegins
  | element name attributes children more => exact atTag_cons _

/-- Character data stays as it is. -/
theorem removeDeclarations_text {raw : List Char} (h : '"' ∉ raw) (hrest : AtTag rest) :
    removeDeclarations 0 (raw ++ rest) = raw ++ removeDeclarations 0 rest := by
  cases rest with
  | nil =>
      have hstop : removeDeclarations 0 [] = [] := rfl
      rw [List.append_nil, removeDeclarations_of_not_mem h, hstop, List.append_nil]
  | cons c rest =>
      obtain rfl := hrest c rfl
      have hstop : removeDeclarations 0 ('<' :: rest) = '<' :: removeDeclarations 0 rest :=
        removeDeclarations_bracket List.not_mem_nil (.inl rfl) rest
      rw [removeDeclarations_bracket h (.inl rfl), hstop]

end Declarations

end MetadataHarvest.Protocol

namespace MetadataHarvest.Markup

open Protocol

section Content

variable {c c' : Content} {rest rest' : List Char} {q : Option String} {name : String}

theorem isName_qualified (hq : ∀ p ∈ q, isPlainName p = true) (hname : isPlainName name = true) :
    isName (qualified q name) = true := by
  obtain ⟨c, cs, hcons, hfirst⟩ := exists_qualified hq hname
  have hchars : ∀ d ∈ (qualified q name).toList, isNameChar d = true := by
    intro d hd
    obtain rfl | hplain := of_mem_qualified hq hname hd
    · decide
    · exact (isPlainChar_spec hplain).2.2
  rw [hcons, List.forall_mem_cons] at hchars
  simp only [isName, hcons, Bool.and_eq_true, List.all_eq_true]
  exact ⟨by simp [isNameStart, hfirst], hchars.2⟩

theorem isUnprefixed_qualified (hq : ∀ p ∈ q, isPlainName p = true) (name : String) :
    IsUnprefixed (qualified q name) name :=
  ⟨q, rfl, fun p hp hmem => absurd ((isPlainName_iff.mp (hq p hp)).2 _ hmem) (by decide)⟩

theorem areAttributes_undeclared {attributes : List (String × String)}
    (h : areAttributes attributes = true) : areAttributes (undeclared attributes) = true := by
  rw [areAttributes, Bool.and_eq_true, List.all_eq_true, decide_eq_true_eq] at h ⊢
  exact ⟨fun a ha => h.1 a (List.mem_of_mem_filter ha), h.2.sublist (List.filter_sublist.map _)⟩

theorem isUndeclared_undeclared {attributes : List (String × String)}
    (h : areAttributes attributes = true) :
    IsUndeclared (attributes.flatMap writtenAttribute)
      ((undeclared attributes).flatMap writtenAttribute) := by
  rw [IsUndeclared, rawAttributes?_written h, rawAttributes?_written (areAttributes_undeclared h)]
  simp [undeclared, List.filter_map, Function.comp_def]

namespace Content.Freed

theorem beginsWithText (h : Freed c c') : c'.beginsWithText = c.beginsWithText := by
  cases h <;> rfl

/-- Of content the declarations in its tags are removed. -/
theorem removeDeclarations_written (h : Freed c c') (hrest : AtTag rest) :
    removeDeclarations 0 (c.written ++ rest) =
      c.undeclare.written ++ removeDeclarations 0 rest := by
  induction h generalizing rest with
  | nil => rfl
  | text value hbegins _ ih =>
      simp only [written, undeclare, List.append_assoc]
      rw [removeDeclarations_text (quote_not_mem_escape _) (atTag_written hbegins hrest), ih hrest]
  | @element q name attributes _ _ _ _ hq hname hattributes hplain _ _ ihChildren ih =>
      have hqualified := isName_qualified hq hname
      have hatTag (back : List Char) : AtTag (closingTag (qualified q name) ++ back) := atTag_cons _
      simp only [written, undeclare, List.append_assoc]
      rw [removeDeclarations_openingTag hqualified hattributes hplain, ihChildren (hatTag _),
        removeDeclarations_closingTag hqualified, ih hrest]

/-- Of what is left the prefixes of its tags are removed. -/
theorem removePrefixes_undeclare (h : Freed c c') (rest : List Char) :
    removePrefixes 0 (c.undeclare.written ++ rest) = c'.written ++ removePrefixes 0 rest := by
  induction h generalizing rest with
  | nil => rfl
  | text value _ _ ih =>
      simp only [written, undeclare, List.append_assoc]
      rw [removePrefixes_append (bracket_not_mem_escape _), ih]
  | element hq hname hattributes _ _ _ ihChildren ih =>
      have hnames := isName_of_areAttributes (areAttributes_undeclared hattributes)
      simp only [written, undeclare, List.append_assoc]
      rw [removePrefixes_openingTag hq hname hnames, ihChildren,
        removePrefixes_closingTag hq hname, ih]

/-- Both are cut into the same tokens, up to the prefixes and the declarations in their tags. -/
theorem forall₂_tokens (h : Freed c c') (hrest : AtTag rest) (hrest' : AtTag rest')
    (htokens : List.Forall₂ Token.Freed (tokens rest) (tokens rest')) :
    List.Forall₂ Token.Freed (tokens (c.written ++ rest)) (tokens (c'.written ++ rest')) := by
  induction h generalizing rest rest' with
  | nil => exact htokens
  | @text value c c' hbegins h ih =>
      have hmore := atTag_written hbegins hrest
      have hmore' := atTag_written (h.beginsWithText.trans hbegins) hrest'
      simp only [written, List.append_assoc]
      by_cases hne : escape value.toList = []
      · rw [hne]
        exact ih hrest hrest' htokens
      · rw [tokens_of_next? (Token.next?_text hne (bracket_not_mem_escape _) hmore),
          tokens_of_next? (Token.next?_text hne (bracket_not_mem_escape _) hmore')]
        exact .cons (.text _) (ih hrest hrest' htokens)
  | @element q name attributes _ _ _ _ hq hname hattributes _ _ _ ihChildren ih =>
      have hunprefixed := isUnprefixed_qualified hq name
      have hnames := isName_of_areAttributes (areAttributes_undeclared hattributes)
      simp only [written, List.append_assoc]
      rw [tokens_of_next? (Token.next?_openingTag (isName_qualified hq hname)
          (isName_of_areAttributes hattributes) _),
        tokens_of_next? (Token.next?_openingTag (isName_of_isPlainName hname) hnames _)]
      refine .cons (.opening hunprefixed (isUndeclared_undeclared hattributes))
        (ihChildren (atTag_cons _) (atTag_cons _) ?_)
      rw [tokens_of_next? (Token.next?_closingTag (isName_qualified hq hname) _),
        tokens_of_next? (Token.next?_closingTag (isName_of_isPlainName hname) _)]
      exact .cons (.closing hunprefixed) (ih hrest hrest' htokens)

end Content.Freed

end Content

end MetadataHarvest.Markup

namespace MetadataHarvest.Protocol

open Markup

/-- Whether nothing but the tags of a response changes when its namespaces are removed. -/
def IsFreed (body : String) : Prop :=
  List.Forall₂ Token.Freed (documentTokens body.toList)
    (documentTokens (removeNamespaces body.toList))

theorem documentTokens_written (e : Element) : documentTokens e.written = tokens e.written := by
  simp [documentTokens, Element.written, openingTag]

/-- Of a tree with plain prefixes nothing but the tags changes, whatever its texts are. -/
theorem isFreed_written {e e' : Element} (h : Content.Freed e.alone e'.alone) :
    IsFreed (String.ofList e.written) := by
  have hdeclarations := h.removeDeclarations_written atTag_nil
  have hprefixes := h.removePrefixes_undeclare []
  have hnil : removeDeclarations 0 [] = [] ∧ removePrefixes 0 [] = [] := ⟨rfl, rfl⟩
  rw [hnil.1, List.append_nil, List.append_nil, Element.written_alone] at hdeclarations
  rw [hnil.2, List.append_nil, List.append_nil, Element.written_alone] at hprefixes
  have htokens := h.forall₂_tokens atTag_nil atTag_nil (tokens_nil ▸ .nil)
  rw [List.append_nil, List.append_nil, Element.written_alone, Element.written_alone] at htokens
  rw [IsFreed, String.toList_ofList, removeNamespaces, hdeclarations, hprefixes,
    documentTokens_written, documentTokens_written]
  exact htokens

end MetadataHarvest.Protocol
