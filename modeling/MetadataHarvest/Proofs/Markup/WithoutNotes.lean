import MetadataHarvest.Proofs.Markup.Rejoining

/-!
# Notes in documents

A document is accepted without its notes as it is with them, and the trees differ in nothing but
the blanks that a note puts into a word. So all texts in the tree are the same exactly when no note
stands in a word. What is outside of the root makes no difference, whatever is taken out there.
-/

namespace MetadataHarvest.Markup

open MetadataHarvest.Text

/-- The characters of the text of an element, blanks apart. -/
def Element.letters (e : Element) : List Char := e.text.toList.filter (!isBlank ·)

variable {drops outside : Token → Bool} {e : Element} {es : List Element} {t : Token}
  {ts lead root : List Token} {cs raw : List Char}

section Rows

/-- What is no tag can be left out of a row. -/
theorem Row.tail (h : Row Token.isOutside es (t :: ts)) (ht : t.isOutside = true) :
    Row Token.isOutside es ts := by
  generalize hus : t :: ts = us at h
  cases h with
  | nil => cases hus
  | outside _ h =>
      obtain ⟨-, rfl⟩ := List.cons.inj hus
      exact h
  | element he _ =>
      cases he with
      | childless _ =>
          obtain ⟨rfl, -⟩ := List.cons.inj hus
          cases ht
      | tagged _ _ =>
          obtain ⟨rfl, -⟩ := List.cons.inj hus
          cases ht

theorem Row.join (h : Row Token.isOutside es ts) (ht : t.isOutside = true) :
    Row Token.isOutside es (t.join ts) := by
  unfold Token.join
  split
  · exact .outside rfl (h.tail rfl)
  · exact .outside ht h

theorem row_join_text_iff :
    Row Token.isOutside es (Token.join (.text raw) ts) ↔ Row Token.isOutside es ts := by
  refine ⟨fun h => ?_, fun h => h.join rfl⟩
  unfold Token.join at h
  split at h
  · exact .outside rfl (h.tail rfl)
  · exact h.tail rfl

/-- A byte order mark is as good as character data before the root. -/
theorem row_documentTokens_iff (cs : List Char) :
    Row Token.isOutside es (documentTokens cs) ↔ Row Token.isOutside es (tokens cs) := by
  unfold documentTokens
  split
  · next rest =>
      have hmark : tokens (['\ufeff'] ++ rest) = _ :=
        tokens_text_append (by decide) (by decide) rest
      rw [← List.singleton_append, hmark]
      exact row_join_text_iff.symm
  · exact Iff.rfl

theorem Row.exists_of_cons (h : Row outside (e :: es) ts) :
    ∃ lead root trail, ts = lead ++ (root ++ trail) ∧ (∀ t ∈ lead, outside t = true) ∧
      e.Spelled root ∧ Row outside es trail := by
  generalize hes : e :: es = es' at h
  induction h with
  | nil => cases hes
  | @outside _ t ts ht _ ih =>
      obtain ⟨lead, root, trail, rfl, hlead, hroot, htrail⟩ := ih hes
      exact ⟨t :: lead, root, trail, rfl, List.forall_mem_cons.mpr ⟨ht, hlead⟩, hroot, htrail⟩
  | @element _ _ root ts he h _ =>
      obtain ⟨rfl, rfl⟩ := List.cons.inj hes
      exact ⟨[], root, ts, rfl, nofun, he, h⟩

end Rows

section Without

variable (hdrops : ∀ t, drops t = true → t.isNote = true)

include hdrops

/-- An element begins and ends with a tag, so that nothing is joined with it. -/
theorem Element.Spelled.dropTokens_append (h : e.Spelled root) (ts : List Token) :
    dropTokens drops (root ++ ts) = dropTokens drops root ++ dropTokens drops ts := by
  cases h with
  | @childless name written _ _ =>
      have htag : ∀ raw, Token.opening name written true ≠ .text raw := fun _ => nofun
      exact dropTokens_concat_append htag (drops_eq_false hdrops rfl) [] ts
  | @tagged _ name written _ inner _ _ =>
      have htag : ∀ raw, Token.closing name ≠ .text raw := fun _ => nofun
      exact dropTokens_concat_append htag (drops_eq_false hdrops rfl)
        (.opening name written false :: inner) ts

/-- A row is a row of as many elements without the notes. -/
theorem Row.exists_dropTokens (h : Row Token.isOutside es ts) :
    ∃ es', Row Token.isOutside es' (dropTokens drops ts) := by
  induction h with
  | nil => exact ⟨[], .nil⟩
  | outside ht _ ih =>
      obtain ⟨es', ih⟩ := ih
      refine ⟨es', ?_⟩
      rw [dropTokens_cons]
      split
      · exact ih
      · exact ih.join ht
  | element he _ ih =>
      obtain ⟨es', ih⟩ := ih
      obtain ⟨e', he', -⟩ := he.exists_rejoined hdrops
      refine ⟨e' :: es', ?_⟩
      rw [he.dropTokens_append hdrops]
      exact .element he' ih

omit hdrops in
theorem Row.dropTokens_append (hlead : ∀ t ∈ lead, t.isOutside = true)
    (h : Row Token.isOutside es (dropTokens drops ts)) :
    Row Token.isOutside es (dropTokens drops (lead ++ ts)) := by
  induction lead with
  | nil => exact h
  | cons t lead ih =>
      rw [List.forall_mem_cons] at hlead
      rw [List.cons_append, dropTokens_cons]
      split
      · exact ih hlead.2
      · exact (ih hlead.2).join hlead.1

end Without

namespace Element

theorem words_alone (e : Element) : e.alone.words = e.content.words := by
  rw [alone, Content.words_element]
  exact List.append_nil _

theorem letters_eq_flatten (e : Element) : e.letters = e.content.words.flatten := by
  rw [letters, text, String.toList_ofList, filter_joinWords e.content.isWord_of_mem_words]

/-- Without its notes a document is a document with the same elements, which have the same names,
attributes and characters. Their texts are the same if and only if no word of the root is split. -/
theorem parse_without {drops : Token → Bool} (hdrops : ∀ t, drops t = true → t.isNote = true)
    {s : String} {e : Element} (h : Element.parse s = .ok e) :
    ∃ (lead root trail : List Token) (e' : Element),
      tokens s.toList = lead ++ (root ++ trail) ∧ (∀ t ∈ lead, t.isOutside = true) ∧
        e.Spelled root ∧ Element.parse (String.ofList (without drops s.toList)) = .ok e' ∧
        List.Forall₂ (fun d d' => d'.name = d.name ∧ d'.attributes = d.attributes ∧
          d'.letters = d.letters) e.alone.descendants e'.alone.descendants ∧
        (List.Forall₂ (fun d d' => d'.text = d.text) e.alone.descendants e'.alone.descendants ↔
          ¬SplitsWord drops root) := by
  obtain ⟨others, hrow⟩ := exists_row_of_parse h
  rw [row_documentTokens_iff] at hrow
  obtain ⟨lead, root, trail, htokens, hlead, hroot, htrail⟩ := hrow.exists_of_cons
  obtain ⟨others', htrail'⟩ := htrail.exists_dropTokens hdrops
  obtain ⟨e', hroot', hrejoined⟩ := hroot.exists_rejoined hdrops
  have hrow' :
      Row Token.isOutside (e' :: others') (dropTokens drops (lead ++ (root ++ trail))) := by
    apply Row.dropTokens_append hlead
    rw [hroot.dropTokens_append hdrops]
    exact .element hroot' htrail'
  refine ⟨lead, root, trail, e', htokens, hlead, hroot, ?_, ?_, ?_⟩
  · apply parse_of_row
    rw [row_documentTokens_iff, String.toList_ofList, tokens_without, htokens]
    exact hrow'
  · apply hrejoined.letters.descendants.imp
    intro d d' hd
    refine ⟨hd.name, hd.attributes, ?_⟩
    rw [letters_eq_flatten, letters_eq_flatten, hd.words]
  · constructor
    · intro hsame hsplits
      have hroot : e'.text = e.text := by
        cases hsame with
        | cons htext _ => exact htext
      have hfewer := hrejoined.fewer hsplits
      rw [words_alone, words_alone, text_eq_iff.mp hroot] at hfewer
      exact absurd hfewer (Nat.lt_irrefl _)
    · intro hwhole
      apply (hrejoined.same hwhole).descendants.imp
      intro d d' hd
      rw [text_eq_iff, hd.words]

/-- An element with one word, in which a comment stands. -/
def notedWord : Element := ⟨"a", [], .text "x" (.text "y" .nil)⟩

theorem tokens_notedWord : tokens "<a>x<!--note-->y</a>".toList =
    [.opening "a" [] false, .text ['x'], .comment "note".toList, .text ['y'], .closing "a"] := by
  have hopening : Token.next? "<a>x<!--note-->y</a>".toList =
      some (.opening "a" [] false, "x<!--note-->y</a>".toList) := by decide
  have hx : Token.next? "x<!--note-->y</a>".toList =
      some (.text ['x'], "<!--note-->y</a>".toList) := by decide
  have hnote : Token.next? "<!--note-->y</a>".toList =
      some (.comment "note".toList, "y</a>".toList) := by decide
  have hy : Token.next? "y</a>".toList = some (.text ['y'], "</a>".toList) := by decide
  have hclosing : Token.next? "</a>".toList = some (.closing "a", []) := by decide
  rw [tokens_of_next? hopening, tokens_of_next? hx, tokens_of_next? hnote, tokens_of_next? hy,
    tokens_of_next? hclosing, tokens_nil]

theorem parse_notedWord : Element.parse "<a>x<!--note-->y</a>" = .ok notedWord := by
  have hx : unescape? (trimSpace ['x']) = some ['x'] := unescape?_escape ['x']
  have hy : unescape? (trimSpace ['y']) = some ['y'] := unescape?_escape ['y']
  apply parse_of_row
  rw [row_documentTokens_iff, tokens_notedWord]
  exact .element (.tagged attributes?_nil (.text (by decide) hx (.skipped rfl
    (.text (by decide) hy .nil)))) .nil

theorem parse_without_notedWord :
    (∀ t, Token.isNote t = true → t.isNote = true) ∧
      Element.parse "<a>x<!--note-->y</a>" = .ok notedWord ∧
      ∃ (lead root trail : List Token) (e' : Element),
        tokens "<a>x<!--note-->y</a>".toList = lead ++ (root ++ trail) ∧
          (∀ t ∈ lead, t.isOutside = true) ∧ notedWord.Spelled root ∧
          Element.parse (String.ofList (without Token.isNote "<a>x<!--note-->y</a>".toList)) =
            .ok e' ∧
          List.Forall₂ (fun d d' => d'.name = d.name ∧ d'.attributes = d.attributes ∧
            d'.letters = d.letters) notedWord.alone.descendants e'.alone.descendants ∧
          (List.Forall₂ (fun d d' => d'.text = d.text) notedWord.alone.descendants
            e'.alone.descendants ↔ ¬SplitsWord Token.isNote root) :=
  ⟨fun _ h => h, parse_notedWord, parse_without (fun _ h => h) parse_notedWord⟩

/-- A comment in a word makes it two words. -/
theorem not_parse_without :
    ¬∀ (s : String) (e : Element), Element.parse s = .ok e →
      ∃ e', Element.parse (String.ofList (without Token.isNote s.toList)) = .ok e' ∧
        List.Forall₂ (fun d d' => d'.text = d.text) e.alone.descendants e'.alone.descendants := by
  intro h
  obtain ⟨e', hparse, hsame⟩ := h _ _ parse_notedWord
  have hxy : unescape? (trimSpace ['x', 'y']) = some ['x', 'y'] := unescape?_escape ['x', 'y']
  have hword : Element.parse (String.ofList (without Token.isNote "<a>x<!--note-->y</a>".toList)) =
      .ok ⟨"a", [], .text "xy" .nil⟩ := by
    apply parse_of_row
    rw [row_documentTokens_iff, String.toList_ofList, tokens_without, tokens_notedWord]
    exact .element (.tagged attributes?_nil (.text (by decide) hxy .nil)) .nil
  rw [hword] at hparse
  cases hparse
  cases hsame with
  | cons htext _ => exact absurd htext (by decide)

end Element

end MetadataHarvest.Markup
