import MetadataHarvest.Markup.Document
import MetadataHarvest.Proofs.Markup.Tag

/-!
# Layouts are read back

Reading any layout of a tree gives the tree. What carries the induction is that the text of
content, read where some elements are open, attaches the nodes of the content to the innermost
of them, one after the other, and leaves reading where the next tag begins.

## Implementation notes

Reading is stated for a text with more text after it, so that the induction goes through the
content of an element and what follows the element alike.
-/

namespace MetadataHarvest.Markup

open MetadataHarvest.Text

/-- A text that is empty or begins with a tag. -/
def AtTag (cs : List Char) : Prop := ∀ c ∈ cs.head?, c = '<'

theorem atTag_nil : AtTag [] := by simp [AtTag]

theorem atTag_cons (cs : List Char) : AtTag ('<' :: cs) := by simp [AtTag]

namespace Token

/-- Character data is one token up to the next tag. -/
theorem next?_text {raw rest : List Char} (hne : raw ≠ []) (hraw : '<' ∉ raw)
    (hrest : AtTag rest) : next? (raw ++ rest) = some (.text raw, rest) := by
  cases raw with
  | nil => exact absurd rfl hne
  | cons c raw =>
      rw [List.mem_cons, not_or] at hraw
      have hplain : ∀ d ∈ raw, decide (d ≠ '<') = true := by
        rintro d hd
        rw [decide_eq_true_eq]
        rintro rfl
        exact hraw.2 hd
      have hrest' : ∀ d ∈ rest.head?, decide (d ≠ '<') = false := by
        intro d hd
        rw [hrest d hd]
        rfl
      rw [List.cons_append, next?, takeWhile_append_of_head? hplain hrest',
        dropWhile_append_of_head? hplain hrest']
      exact Ne.symm hraw.1

/-- A comment is one token. -/
theorem next?_comment {content : List Char} (h : '-' ∉ content) (rest : List Char) :
    next? (writtenComment content ++ rest) = some (.comment content, rest) := by
  have hbreak : breakOn? ['-', '-', '>'] (content ++ '-' :: '-' :: '>' :: rest) =
      some (content, rest) := breakOn?_append h rest
  have hafter (cs : List Char) : afterIgnoringCase? ['-', '-'] ('-' :: '-' :: cs) = some cs := by
    simp [afterIgnoringCase?]
  have hdeclaration : declaration ('-' :: '-' :: (content ++ '-' :: '-' :: '>' :: rest)) =
      (.comment content, rest) := by
    simp only [declaration, hafter, hbreak]
  simp [writtenComment, next?, markup?, hdeclaration]

end Token

theorem tokens_nil : tokens [] = [] := by
  rw [tokens]
  rfl

theorem tokens_of_next? {cs rest : List Char} {t : Token} (h : Token.next? cs = some (t, rest)) :
    tokens cs = t :: tokens rest := by
  rw [tokens]
  split
  · next hnone =>
      rw [h] at hnone
      cases hnone
  · next t' rest' hsome =>
      obtain ⟨rfl, rfl⟩ := Prod.mk.inj (Option.some.inj (h.symm.trans hsome))
      rfl

namespace Progress

/-- The progress after a text, when it is well-formed so far. -/
def read? (p : Progress) (cs : List Char) : Option Progress := (tokens cs).foldlM step? p

@[simp] theorem read?_nil (p : Progress) : p.read? [] = some p := by
  rw [read?, tokens_nil]
  rfl

/-- One token is read after the other. -/
theorem read?_of_next? {cs rest : List Char} {t : Token} (h : Token.next? cs = some (t, rest))
    (p : Progress) : p.read? cs = (p.step? t).bind (·.read? rest) := by
  rw [read?, tokens_of_next? h, List.foldlM_cons]
  rfl

/-- White space leaves no trace. -/
theorem read?_white {space rest : List Char} (hspace : ∀ c ∈ space, isSpace c = true)
    (hrest : AtTag rest) (p : Progress) : p.read? (space ++ rest) = p.read? rest := by
  by_cases hne : space = []
  · rw [hne, List.nil_append]
  · have hraw : '<' ∉ space := fun hmem => absurd (hspace _ hmem) (by decide)
    have htrim : trimSpace space = [] := by
      have hdrop : (space ++ []).dropWhile isSpace = [] :=
        dropWhile_append_of_head? hspace (by simp)
      rw [List.append_nil] at hdrop
      rw [trimSpace, trimWhile, hdrop, dropWhileEnd_nil]
    rw [read?_of_next? (Token.next?_text hne hraw hrest), step?, text?, htrim]
    simp

/-- Nor do gaps. -/
theorem read?_gap {gap rest : List Char} (hgap : Gap gap) (hrest : AtTag rest) (p : Progress) :
    p.read? (gap ++ rest) = p.read? rest := by
  induction hgap with
  | white hspace => exact read?_white hspace hrest p
  | @comment space content gap hspace hcontent _ ih =>
      have hcomment : AtTag (writtenComment content ++ (gap ++ rest)) := atTag_cons _
      rw [List.append_assoc, List.append_assoc, read?_white hspace hcomment,
        read?_of_next? (Token.next?_comment hcontent _)]
      exact ih

theorem read?_gapAfter {afterTag : Bool} {gap rest : List Char} (hgap : GapAfter afterTag gap)
    (hrest : AtTag rest) (p : Progress) : p.read? (gap ++ rest) = p.read? rest := by
  rcases hgap with rfl | ⟨-, hgap⟩
  · rfl
  · exact read?_gap hgap hrest p

/-- Character data that needs no trimming becomes a node. -/
theorem text?_escape {value : String} (h : isFilled value = true) (p : Progress) :
    p.text? (escape value.toList) = some (p.attach (.text value)) := by
  rw [isFilled, Bool.and_eq_true, Bool.not_eq_true', beq_iff_eq] at h
  obtain ⟨hne, htrim⟩ := h
  have hraw : trimSpace (escape value.toList) = escape value.toList := by
    rw [trimSpace_escape, htrim]
  have hfilled : (escape value.toList).isEmpty = false := by
    rw [List.isEmpty_eq_false_iff] at hne ⊢
    exact mt escape_eq_nil_iff.mp hne
  rw [text?, hraw, hfilled, unescape?_escape]
  cases hstack : p.stack with
  | nil => simp [attach, hstack]
  | cons e outer => simp

theorem read?_text {value : String} {rest : List Char} (h : isFilled value = true)
    (hrest : AtTag rest) (p : Progress) :
    p.read? (escape value.toList ++ rest) = (p.attach (.text value)).read? rest := by
  have hne : escape value.toList ≠ [] := by
    rw [Ne, escape_eq_nil_iff]
    rintro hnil
    simp [isFilled, hnil] at h
  rw [read?_of_next? (Token.next?_text hne (bracket_not_mem_escape _) hrest), step?,
    text?_escape h]
  rfl

/-- Nodes go to the innermost open element, whatever is open around it. -/
theorem foldl_attach_cons (e : OpenElement) (outer : List OpenElement) (root : Option Element)
    (ns : List Node) :
    ns.foldl attach ⟨e :: outer, root⟩ =
      ⟨{ e with children := ns.reverse ++ e.children } :: outer, root⟩ := by
  induction ns generalizing e with
  | nil => rfl
  | cons n ns ih =>
      have hattach : attach ⟨e :: outer, root⟩ n = ⟨e.push n :: outer, root⟩ := rfl
      rw [List.foldl_cons, hattach, ih]
      simp [OpenElement.push]

theorem read?_openingTag {name : String} {attributes : List (String × String)}
    (hname : isName name = true) (hattributes : areAttributes attributes = true)
    (rest : List Char) (p : Progress) :
    p.read? (openingTag name attributes ++ rest) =
      read? { p with stack := ⟨name, attributes, []⟩ :: p.stack } rest := by
  rw [read?_of_next? (Token.next?_openingTag hname (isName_of_areAttributes hattributes) rest),
    step?, opening?, attributes?_written hattributes]
  rfl

theorem read?_selfClosingTag {name : String} {attributes : List (String × String)}
    (hname : isName name = true) (hattributes : areAttributes attributes = true)
    (rest : List Char) (p : Progress) :
    p.read? (selfClosingTag name attributes ++ rest) =
      (p.attach (.element ⟨name, attributes, .nil⟩)).read? rest := by
  rw [read?_of_next? (Token.next?_selfClosingTag hname (isName_of_areAttributes hattributes) rest),
    step?, opening?, attributes?_written hattributes]
  rfl

theorem read?_closingTag {e : OpenElement} (hname : isName e.name = true) (rest : List Char)
    (outer : List OpenElement) (root : Option Element) :
    read? ⟨e :: outer, root⟩ (closingTag e.name ++ rest) =
      (attach ⟨outer, root⟩ (.element e.close)).read? rest := by
  rw [read?_of_next? (Token.next?_closingTag hname rest)]
  simp [step?, closing?]

/-- Reading the text, where a tag or nothing follows it, attaches the nodes one after the
other. -/
def Attaches (cs : List Char) (ns : List Node) : Prop :=
  ∀ (p : Progress) (rest : List Char), AtTag rest →
    p.read? (cs ++ rest) = (ns.foldl attach p).read? rest

/-- What is between two tags goes to the element that they bound. -/
theorem Attaches.read?_tagged {inner : List Char} {ns : List Node} (h : Attaches inner ns)
    {name : String} {attributes : List (String × String)} (hname : isName name = true)
    (hattributes : areAttributes attributes = true) (rest : List Char) (p : Progress) :
    p.read? (openingTag name attributes ++ (inner ++ (closingTag name ++ rest))) =
      (p.attach (.element ⟨name, attributes, .ofNodes ns⟩)).read? rest := by
  have hclosing : AtTag (closingTag name ++ rest) := atTag_cons _
  have hclosed := read?_closingTag (e := ⟨name, attributes, ns.reverse ++ []⟩)
    hname rest p.stack p.root
  rw [read?_openingTag hname hattributes, h _ _ hclosing, foldl_attach_cons, hclosed]
  simp [OpenElement.close]

end Progress

open Progress

/-- The layout of content that does not begin with character data is at a tag. -/
theorem Content.LaidOut.atTag {c : Content} {cs rest : List Char} (h : c.LaidOut false cs)
    (hc : c.beginsWithText = false) (hrest : AtTag rest) : AtTag (cs ++ rest) := by
  cases h with
  | nil hgap =>
      obtain rfl : _ = [] := by simpa [GapAfter] using hgap
      exact hrest
  | text => cases hc
  | element hgap =>
      obtain rfl : _ = [] := by simpa [GapAfter] using hgap
      exact atTag_cons _
  | childless hgap =>
      obtain rfl : _ = [] := by simpa [GapAfter] using hgap
      exact atTag_cons _

/-- Reading a layout of content attaches its nodes one after the other. -/
theorem Content.LaidOut.read? {afterTag : Bool} {c : Content} {cs rest : List Char}
    (h : c.LaidOut afterTag cs) (hc : c.isCanonical = true) (hrest : AtTag rest)
    (p : Progress) : p.read? (cs ++ rest) = (c.nodes.foldl attach p).read? rest := by
  induction h generalizing p rest with
  | nil hgap => exact read?_gapAfter hgap hrest p
  | @text _ value more cs hmore ih =>
      simp only [isCanonical, Bool.and_eq_true, Bool.not_eq_true'] at hc
      obtain ⟨⟨hvalue, hbegins⟩, hcanonical⟩ := hc
      rw [List.append_assoc, read?_text hvalue (hmore.atTag hbegins hrest),
        ih hcanonical hrest]
      rfl
  | @element _ gap name attributes children more inner cs hgap _ _ ihChildren ihMore =>
      simp only [isCanonical, Bool.and_eq_true] at hc
      obtain ⟨⟨⟨hname, hattributes⟩, hchildren⟩, hmore⟩ := hc
      simp only [List.append_assoc]
      have hopening : AtTag (openingTag name attributes ++
        (inner ++ (closingTag name ++ (cs ++ rest)))) := atTag_cons _
      have hinner : Attaches inner children.nodes := fun p _ hrest => ihChildren hchildren hrest p
      rw [read?_gapAfter hgap hopening, hinner.read?_tagged hname hattributes,
        ihMore hmore hrest, ofNodes_nodes]
      rfl
  | @childless _ gap name attributes more cs hgap _ ihMore =>
      simp only [isCanonical, Bool.and_eq_true] at hc
      obtain ⟨⟨⟨hname, hattributes⟩, -⟩, hmore⟩ := hc
      simp only [List.append_assoc]
      have htag : AtTag (selfClosingTag name attributes ++ (cs ++ rest)) := atTag_cons _
      rw [read?_gapAfter hgap htag, read?_selfClosingTag hname hattributes, ihMore hmore hrest]
      rfl

/-- A gap and the tag after it begin with white space or with the tag. -/
theorem GapAfter.head? {afterTag : Bool} {gap rest : List Char} (hgap : GapAfter afterTag gap)
    (hrest : AtTag rest) : ∀ c ∈ (gap ++ rest).head?, isSpace c = true ∨ c = '<' := by
  have hwhite {space more : List Char} (hspace : ∀ c ∈ space, isSpace c = true)
      (hmore : AtTag more) : ∀ c ∈ (space ++ more).head?, isSpace c = true ∨ c = '<' := by
    intro c hc
    cases space with
    | nil => exact .inr (hmore c hc)
    | cons d space =>
        obtain rfl : d = c := by simpa using hc
        exact .inl (hspace d List.mem_cons_self)
  rcases hgap with rfl | ⟨-, hgap⟩
  · exact fun c hc => .inr (hrest c hc)
  · cases hgap with
    | white hspace => exact hwhite hspace hrest
    | comment hspace =>
        rw [List.append_assoc, List.append_assoc]
        exact hwhite hspace (atTag_cons _)

theorem Content.LaidOut.head? {afterTag : Bool} {c : Content} {cs : List Char}
    (h : c.LaidOut afterTag cs) (hc : c.beginsWithText = false) :
    ∀ d ∈ cs.head?, isSpace d = true ∨ d = '<' := by
  cases h with
  | nil hgap => simpa using hgap.head? atTag_nil
  | text => cases hc
  | element hgap => exact hgap.head? (atTag_cons _)
  | childless hgap => exact hgap.head? (atTag_cons _)

/-- Without a byte order mark a document is read as it is. -/
theorem Element.parse_ofList {cs : List Char} (h : ∀ c ∈ cs.head?, c ≠ '\ufeff') :
    Element.parse (String.ofList cs) =
      match start.read? cs with
      | none => .error .malformed
      | some p => p.finish := by
  have htokens : documentTokens cs = tokens cs := by
    unfold documentTokens
    split
    · next rest => exact absurd rfl (h _ rfl)
    · rfl
  rw [parse, String.toList_ofList, htokens]
  rfl

/-- Reading a tree in any of its layouts, the written form among them, gives the tree. -/
theorem Element.parse_layout {e : Element} (he : e.isCanonical = true) :
    Element.parse (String.ofList e.written) = .ok e ∧
      ∀ cs, e.LaidOut cs → Element.parse (String.ofList cs) = .ok e := by
  have hlayout (cs : List Char) (h : e.LaidOut cs) :
      Element.parse (String.ofList cs) = .ok e := by
    have hbom : ∀ c ∈ cs.head?, c ≠ '\ufeff' := by
      rintro c hc rfl
      exact absurd (Content.LaidOut.head? h rfl _ hc) (by decide)
    have hread := Content.LaidOut.read? h he atTag_nil start
    rw [List.append_nil, read?_nil] at hread
    rw [parse_ofList hbom, hread]
    rfl
  exact ⟨hlayout _ e.laidOut_written, hlayout⟩

/-- A tree with attributes, an element without content and character data. -/
def Element.notedSample : Element :=
  ⟨"a", [("k", "<&>"), ("p:l", " ")], .element "b" [] .nil (.text "x \"y\"" .nil)⟩

def Element.notedSampleText : String :=
  "<a k=\"&lt;&amp;&gt;\" p:l=\" \"> <!--a note-->\n<b/>x &quot;y&quot;</a>"

theorem Element.laidOut_notedSample :
    Element.notedSample.LaidOut Element.notedSampleText.toList := by
  have hgap : Gap ([' '] ++ (writtenComment "a note".toList ++ ['\n'])) :=
    .comment (by simp [isSpace]) (by decide) (.white (by simp [isSpace]))
  have htext : Content.LaidOut true (.text "x \"y\"" .nil)
      (escape "x \"y\"".toList ++ []) := .text (.nil (.inl rfl))
  exact .element (.inl rfl) (.childless (.inr ⟨rfl, hgap⟩) htext) (.nil (.inl rfl))

theorem Element.parse_layout_notedSample :
    Element.notedSample.isCanonical = true ∧
      Element.notedSample.LaidOut Element.notedSampleText.toList ∧
      Element.parse (String.ofList Element.notedSample.written) = .ok Element.notedSample ∧
      Element.parse (String.ofList Element.notedSampleText.toList) = .ok Element.notedSample := by
  have hcanonical : Element.notedSample.isCanonical = true := by decide
  have hlayout := Element.parse_layout hcanonical
  exact ⟨hcanonical, laidOut_notedSample, hlayout.1, hlayout.2 _ laidOut_notedSample⟩

end MetadataHarvest.Markup
