import MetadataHarvest.Proofs.Markup.Descendants
import MetadataHarvest.Proofs.Markup.Grammar
import MetadataHarvest.Proofs.Markup.Notes
import MetadataHarvest.Proofs.Markup.Texts
import Mathlib.Data.List.Forall2

/-!
# Documents without their notes

A document stays a document when comments and processing instructions are taken out of its text.
Its elements keep their names, their attributes and the characters of their text, blanks apart.
The text of an element is the same in both trees unless a note stands in a word: the two parts of
the word are two pieces of character data with the note between them, and the text of the element
has a blank there.

## Implementation notes

What a reader makes of character data is its words, and white space around it makes no difference
to them. So it is enough to look at a piece of character data as a whole, its outer white space
included, and to see how the words of two pieces are those of the two together.
-/

namespace MetadataHarvest.Markup

open MetadataHarvest.Text

/-- Whether a word goes on in the next piece of character data when the tokens in `drops` are
taken out. -/
inductive SplitsWord (drops : Token → Bool) : List Token → Prop
  | here {raw raw' value value' : List Char} {ts us : List Token}
      (hnext : dropTokens drops ts = .text raw' :: us) (hvalue : unescape? raw = some value)
      (hvalue' : unescape? raw' = some value') (hends : EndsInWord value)
      (hbegins : BeginsWithWord value') : SplitsWord drops (.text raw :: ts)
  | later {t : Token} {ts : List Token} (h : SplitsWord drops ts) : SplitsWord drops (t :: ts)

/-- The same characters, in the same or in other words. -/
def SameLetters (ws ws' : List (List Char)) : Prop := ws'.flatten = ws.flatten

/-- Elements that differ in their content at most, with words that `R` relates. -/
structure Element.Alike (R : List (List Char) → List (List Char) → Prop) (e e' : Element) :
    Prop where
  name : e'.name = e.name
  attributes : e'.attributes = e.attributes
  words : R e.content.words e'.content.words

/-- Contents in which the elements are alike, at any depth. -/
structure Content.Alike (R : List (List Char) → List (List Char) → Prop) (c c' : Content) :
    Prop where
  words : R c.words c'.words
  descendants : List.Forall₂ (Element.Alike R) c.descendants c'.descendants

variable {drops : Token → Bool} {c c' c₀ c₀' : Content} {t : Token} {ts us : List Token}
  {raw value : List Char}

section CharacterData

theorem exists_trimSpace (raw : List Char) :
    ∃ front back, (∀ c ∈ front, isSpace c = true) ∧ (∀ c ∈ back, isSpace c = true) ∧
      raw = front ++ (trimSpace raw ++ back) :=
  exists_trimWhile isSpace raw

theorem words_trimSpace {front core back : List Char} (hfront : ∀ c ∈ front, isSpace c = true)
    (hback : ∀ c ∈ back, isSpace c = true) : words (front ++ (core ++ back)) = words core := by
  rw [words_blank_append fun c hc => isBlank_of_isSpace (hfront c hc),
    words_append_of_blank fun c hc => isBlank_of_isSpace (hback c hc)]

/-- Character data that can be read can be read without its outer white space. -/
theorem exists_of_unescape? (h : unescape? raw = some value) :
    ∃ core, unescape? (trimSpace raw) = some core ∧ words core = words value := by
  obtain ⟨front, back, hfront, hback, hraw⟩ := exists_trimSpace raw
  rw [hraw, unescape?_white_append hfront] at h
  obtain ⟨more, hmore, rfl⟩ := Option.map_eq_some_iff.mp h
  obtain ⟨core, hcore, rfl⟩ := exists_of_unescape?_append_white hback hmore
  exact ⟨core, hcore, (words_trimSpace hfront hback).symm⟩

theorem exists_unescape? {core : List Char} (h : unescape? (trimSpace raw) = some core) :
    ∃ value, unescape? raw = some value ∧ words value = words core := by
  obtain ⟨front, back, hfront, hback, hraw⟩ := exists_trimSpace raw
  have hread := unescape?_append (unescape?_white hfront)
    (unescape?_append h (unescape?_white hback))
  rw [← hraw] at hread
  exact ⟨_, hread, words_trimSpace hfront hback⟩

/-- Nothing but white space can be read, and has no words. -/
theorem exists_unescape?_of_white (hraw : trimSpace raw = []) :
    ∃ value, unescape? raw = some value ∧ words value = [] := by
  have hcore : unescape? (trimSpace raw) = some [] := by rw [hraw, unescape?_nil]
  exact exists_unescape? hcore

/-- Character data puts its words before those of what follows it. -/
theorem exists_spelled_text (hraw : unescape? raw = some value) (h : c₀.Spelled ts) :
    ∃ c : Content, c.Spelled (.text raw :: ts) ∧ c.words = Text.words value ++ c₀.words ∧
      c.descendants = c₀.descendants := by
  obtain ⟨core, hcore, hwords⟩ := exists_of_unescape? hraw
  by_cases hempty : trimSpace raw = []
  · rw [hempty, unescape?_nil] at hcore
    obtain rfl := Option.some.inj hcore
    refine ⟨c₀, .white hempty h, ?_, rfl⟩
    rw [← hwords]
    rfl
  · refine ⟨.text (String.ofList core) c₀, .text hempty hcore h, ?_, rfl⟩
    rw [Content.words_text, String.toList_ofList, hwords]

theorem Content.Spelled.exists_of_text (h : c.Spelled (.text raw :: ts)) :
    ∃ (value : List Char) (c₀ : Content), unescape? raw = some value ∧ c₀.Spelled ts ∧
      c.words = Text.words value ++ c₀.words ∧ c.descendants = c₀.descendants := by
  cases h with
  | skipped ht _ => cases ht
  | white hraw h =>
      obtain ⟨value, hvalue, hwords⟩ := exists_unescape?_of_white hraw
      refine ⟨value, c, hvalue, h, ?_, rfl⟩
      rw [hwords, List.nil_append]
  | @text c _ core _ hraw hcore h =>
      obtain ⟨value, hvalue, hwords⟩ := exists_unescape? hcore
      refine ⟨value, c, hvalue, h, ?_, rfl⟩
      rw [Content.words_text, String.toList_ofList, hwords]

end CharacterData

section Tokens

theorem SplitsWord.of_cons (h : SplitsWord drops (t :: ts)) (ht : ∀ raw, t ≠ .text raw) :
    SplitsWord drops ts := by
  cases h with
  | here _ _ _ _ _ => exact absurd rfl (ht _)
  | later h => exact h

theorem splitsWord_cons_iff (ht : ∀ raw, t ≠ .text raw) :
    SplitsWord drops (t :: ts) ↔ SplitsWord drops ts :=
  ⟨fun h => h.of_cons ht, .later⟩

theorem not_splitsWord_nil : ¬SplitsWord drops [] := nofun

theorem splitsWord_append_cons_iff (ht : ∀ raw, t ≠ .text raw) (hkept : drops t = false)
    (us ts : List Token) :
    SplitsWord drops (us ++ t :: ts) ↔ SplitsWord drops us ∨ SplitsWord drops ts := by
  induction us with
  | nil =>
      rw [List.nil_append, splitsWord_cons_iff ht]
      exact (or_iff_right not_splitsWord_nil).symm
  | cons u us ih =>
      constructor
      · intro h
        cases h with
        | here hnext hvalue hvalue' hends hbegins =>
            have hnext := (dropTokens_append_cons ht hkept us ts).symm.trans hnext
            cases hus : dropTokens drops us with
            | nil =>
                rw [hus] at hnext
                exact absurd (List.cons.inj hnext).1 (ht _)
            | cons v vs =>
                rw [hus] at hnext
                obtain ⟨rfl, -⟩ := List.cons.inj hnext
                exact .inl (.here hus hvalue hvalue' hends hbegins)
        | later h => exact (ih.mp h).imp_left .later
      · rintro (h | h)
        · cases h with
          | here hnext hvalue hvalue' hends hbegins =>
              have hall := dropTokens_append_cons ht hkept us ts
              rw [hnext, List.cons_append] at hall
              exact .here hall hvalue hvalue' hends hbegins
          | later h => exact .later (ih.mpr (.inl h))
        · exact .later (ih.mpr (.inr h))

end Tokens

namespace Content.Alike

variable {R : List (List Char) → List (List Char) → Prop} {children children' : Content}
  {name : String} {attributes : List (String × String)}

/-- What comes before contents that are alike may have no elements. -/
theorem of_words (hwords : R c.words c'.words) (h : c₀.Alike R c₀')
    (hdescendants : c.descendants = c₀.descendants)
    (hdescendants' : c'.descendants = c₀'.descendants) : c.Alike R c' where
  words := hwords
  descendants := by
    rw [hdescendants, hdescendants']
    exact h.descendants

theorem element (happend : R (children.words ++ c.words) (children'.words ++ c'.words))
    (hchildren : children.Alike R children') (h : c.Alike R c') :
    Alike R (.element name attributes children c) (.element name attributes children' c') where
  words := by rwa [words_element, words_element]
  descendants := .cons ⟨rfl, rfl, hchildren.words⟩
    (List.rel_append hchildren.descendants h.descendants)

end Content.Alike

/-- The second content is spelled without the tokens in `drops`. It has the same elements with the
same characters, and their words are the same unless a word was in two parts before. -/
structure Rejoined (drops : Token → Bool) (ts : List Token) (c c' : Content) : Prop where
  spelled : c'.Spelled (dropTokens drops ts)
  letters : c.Alike SameLetters c'
  same : ¬SplitsWord drops ts → c.Alike Eq c'
  fewer : SplitsWord drops ts → c'.words.length < c.words.length

theorem SameLetters.append {ws ws' vs vs' : List (List Char)} (h : SameLetters ws ws')
    (h' : SameLetters vs vs') : SameLetters (ws ++ vs) (ws' ++ vs') := by
  rw [SameLetters, List.flatten_append, List.flatten_append, h, h']

namespace Rejoined

theorem length_words_le (h : Rejoined drops ts c c') : c'.words.length ≤ c.words.length := by
  by_cases hsplits : SplitsWord drops ts
  · exact (h.fewer hsplits).le
  · rw [← (h.same hsplits).words]

protected theorem nil : Rejoined drops [] .nil .nil where
  spelled := .nil
  letters := ⟨rfl, .nil⟩
  same _ := ⟨rfl, .nil⟩
  fewer h := absurd h not_splitsWord_nil

/-- Words that come before are the same in both, and no word goes on from them. -/
theorem of_words {ws : List (List Char)} (h : Rejoined drops ts c₀ c₀')
    (hspelled : c'.Spelled (dropTokens drops us))
    (hsplits : SplitsWord drops us ↔ SplitsWord drops ts)
    (hc : c.words = ws ++ c₀.words) (hc' : c'.words = ws ++ c₀'.words)
    (hdescendants : c.descendants = c₀.descendants)
    (hdescendants' : c'.descendants = c₀'.descendants) : Rejoined drops us c c' where
  spelled := hspelled
  letters := by
    have hwords : SameLetters (ws ++ c₀.words) (ws ++ c₀'.words) := .append rfl h.letters.words
    rw [← hc, ← hc'] at hwords
    exact .of_words hwords h.letters hdescendants hdescendants'
  same hnot := by
    have hsame := h.same (mt hsplits.mpr hnot)
    exact .of_words (by rw [hc, hc', hsame.words]) hsame hdescendants hdescendants'
  fewer hs := by
    have hfewer := h.fewer (hsplits.mp hs)
    rw [hc, hc', List.length_append, List.length_append]
    omega

/-- Tokens that add neither words nor elements, or add the same ones to both. -/
theorem skipped (h : Rejoined drops ts c c') (ht : t.isSkipped = true) :
    Rejoined drops (t :: ts) c c' := by
  have hne : ∀ raw, t ≠ .text raw := by
    rintro raw rfl
    cases ht
  have hspelled : c'.Spelled (dropTokens drops (t :: ts)) := by
    rw [dropTokens_cons]
    split
    · exact h.spelled
    · rw [Token.join_of_ne_text hne]
      exact .skipped ht h.spelled
  exact h.of_words hspelled (splitsWord_cons_iff hne) (List.nil_append _).symm
    (List.nil_append _).symm rfl rfl

theorem cdata {content : List Char} (h : Rejoined drops ts c c')
    (hkept : drops (.cdata content) = false) :
    Rejoined drops (.cdata content :: ts) (.text (String.ofList content) c)
      (.text (String.ofList content) c') := by
  have hne : ∀ raw, Token.cdata content ≠ .text raw := fun _ => nofun
  have hspelled : Content.Spelled (.text (String.ofList content) c')
      (dropTokens drops (.cdata content :: ts)) := by
    rw [dropTokens_cons, hkept, Token.join_of_ne_text hne]
    exact .cdata h.spelled
  exact h.of_words hspelled (splitsWord_cons_iff hne) (Content.words_text _ _)
    (Content.words_text _ _) rfl rfl

/-- A word that goes on after the tokens that were taken out is one word less. -/
theorem text_joined {raw' value' : List Char} {c₁ : Content} (h : Rejoined drops ts c₀ c₀')
    (hspelled : c'.Spelled (dropTokens drops (.text raw :: ts)))
    (hnext : dropTokens drops ts = .text raw' :: us) (hraw : unescape? raw = some value)
    (hraw' : unescape? raw' = some value') (hends : EndsInWord value)
    (hbegins : BeginsWithWord value') (hc : c.words = Text.words value ++ c₀.words)
    (hc₀' : c₀'.words = Text.words value' ++ c₁.words)
    (hc' : c'.words = Text.words (value ++ value') ++ c₁.words)
    (hdescendants : c.descendants = c₀.descendants)
    (hdescendants' : c'.descendants = c₀'.descendants) : Rejoined drops (.text raw :: ts) c c' where
  spelled := hspelled
  letters := by
    have hwords : SameLetters c.words c'.words := by
      have hletters := h.letters.words
      rw [SameLetters, hc₀'] at hletters
      rw [SameLetters, hc, hc', List.flatten_append, List.flatten_append, ← hletters, flatten_words,
        flatten_words, List.flatten_append, flatten_words, List.filter_append, List.append_assoc]
    exact .of_words hwords h.letters hdescendants hdescendants'
  same hnot := absurd (.here hnext hraw hraw' hends hbegins) hnot
  fewer _ := by
    have hone := length_words_append hends hbegins
    have hrest := h.length_words_le
    rw [hc₀', List.length_append] at hrest
    rw [hc, hc', List.length_append, List.length_append]
    omega

/-- Character data is joined with what follows it, if this is character data too. -/
theorem text (h : Rejoined drops ts c₀ c₀') (hkept : drops (.text raw) = false)
    (hraw : unescape? raw = some value) (hc : c.words = Text.words value ++ c₀.words)
    (hdescendants : c.descendants = c₀.descendants) :
    ∃ c', Rejoined drops (.text raw :: ts) c c' := by
  have hdrop : dropTokens drops (.text raw :: ts) =
      Token.join (.text raw) (dropTokens drops ts) := by
    rw [dropTokens_cons, hkept]
    rfl
  by_cases hnext : ∃ raw' us, dropTokens drops ts = .text raw' :: us
  · obtain ⟨raw', us, hnext⟩ := hnext
    have hspelled := h.spelled
    rw [hnext] at hspelled
    obtain ⟨value', c₁, hraw', hus, hwords, hdescendants₁⟩ := hspelled.exists_of_text
    obtain ⟨c', hc', hwords', hdescendants'⟩ :=
      exists_spelled_text (unescape?_append hraw hraw') hus
    have hjoined : dropTokens drops (.text raw :: ts) = .text (raw ++ raw') :: us := by
      rw [hdrop, hnext]
      rfl
    rw [← hjoined] at hc'
    refine ⟨c', ?_⟩
    by_cases hgoes : EndsInWord value ∧ BeginsWithWord value'
    · exact h.text_joined hc' hnext hraw hraw' hgoes.1 hgoes.2 hc hwords hwords' hdescendants
        (hdescendants'.trans hdescendants₁.symm)
    · have hsplits : SplitsWord drops (.text raw :: ts) ↔ SplitsWord drops ts := by
        refine ⟨fun hs => ?_, .later⟩
        cases hs with
        | here hnext' hvalue hvalue' hends hbegins =>
            obtain ⟨heq, -⟩ := List.cons.inj (hnext.symm.trans hnext')
            obtain rfl := Token.text.inj heq
            obtain rfl := Option.some.inj (hraw.symm.trans hvalue)
            obtain rfl := Option.some.inj (hraw'.symm.trans hvalue')
            exact absurd ⟨hends, hbegins⟩ hgoes
        | later hs => exact hs
      rw [words_append hgoes, List.append_assoc, ← hwords] at hwords'
      exact h.of_words hc' hsplits hc hwords' hdescendants
        (hdescendants'.trans hdescendants₁.symm)
  · obtain ⟨c', hc', hwords', hdescendants'⟩ := exists_spelled_text hraw h.spelled
    have hapart : dropTokens drops (.text raw :: ts) = .text raw :: dropTokens drops ts := by
      rw [hdrop]
      unfold Token.join
      split
      · next heq => exact absurd ⟨_, _, heq⟩ hnext
      · rfl
    have hsplits : SplitsWord drops (.text raw :: ts) ↔ SplitsWord drops ts := by
      refine ⟨fun hs => ?_, .later⟩
      cases hs with
      | here hnext' _ _ _ _ => exact absurd ⟨_, _, hnext'⟩ hnext
      | later hs => exact hs
    rw [← hapart] at hc'
    exact ⟨c', h.of_words hc' hsplits hc hwords' hdescendants hdescendants'⟩

theorem element {name : String} {attributes : List (String × String)}
    {children children' : Content} {inner : List Token}
    (hchildren : Rejoined drops inner children children') (h : Rejoined drops ts c c')
    (hspelled : Content.Spelled (.element name attributes children' c') (dropTokens drops us))
    (hsplits : SplitsWord drops us ↔ SplitsWord drops inner ∨ SplitsWord drops ts) :
    Rejoined drops us (.element name attributes children c)
      (.element name attributes children' c') where
  spelled := hspelled
  letters := .element (.append hchildren.letters.words h.letters.words) hchildren.letters h.letters
  same hnot := by
    rw [hsplits, not_or] at hnot
    have hsame := h.same hnot.2
    have hsame' := hchildren.same hnot.1
    exact .element (by rw [hsame.words, hsame'.words]) hsame' hsame
  fewer hs := by
    have hle := h.length_words_le
    have hle' := hchildren.length_words_le
    rw [Content.words_element, Content.words_element, List.length_append, List.length_append]
    rcases hsplits.mp hs with hs | hs
    · have hfewer := hchildren.fewer hs
      omega
    · have hfewer := h.fewer hs
      omega

end Rejoined

section Documents

variable (hdrops : ∀ t, drops t = true → t.isNote = true)

include hdrops

theorem drops_eq_false (ht : t.isNote = false) : drops t = false := by
  by_contra hdropped
  rw [hdrops t (by simpa using hdropped)] at ht
  cases ht

/-- An element is spelled without the notes as before, with its content without them. -/
theorem dropTokens_tagged {name : String} {written : List Char} (inner ts : List Token) :
    dropTokens drops (.opening name written false :: (inner ++ .closing name :: ts)) =
      .opening name written false ::
        (dropTokens drops inner ++ .closing name :: dropTokens drops ts) := by
  have hclosing : ∀ raw, Token.closing name ≠ .text raw := fun _ => nofun
  rw [dropTokens_cons, drops_eq_false hdrops rfl,
    dropTokens_append_cons hclosing (drops_eq_false hdrops rfl)]
  rfl

theorem splitsWord_tagged_iff {name : String} {written : List Char} (inner ts : List Token) :
    SplitsWord drops (.opening name written false :: (inner ++ .closing name :: ts)) ↔
      SplitsWord drops inner ∨ SplitsWord drops ts := by
  have hopening : ∀ raw, Token.opening name written false ≠ .text raw := fun _ => nofun
  have hclosing : ∀ raw, Token.closing name ≠ .text raw := fun _ => nofun
  rw [splitsWord_cons_iff hopening,
    splitsWord_append_cons_iff hclosing (drops_eq_false hdrops rfl)]

/-- The same for a tag that closes itself. -/
theorem dropTokens_childless {name : String} {written : List Char} (ts : List Token) :
    dropTokens drops (.opening name written true :: ts) =
      .opening name written true :: dropTokens drops ts := by
  rw [dropTokens_cons, drops_eq_false hdrops rfl]
  rfl

omit hdrops in
theorem splitsWord_childless_iff {name : String} {written : List Char} (ts : List Token) :
    SplitsWord drops (.opening name written true :: ts) ↔
      SplitsWord drops [] ∨ SplitsWord drops ts := by
  have hopening : ∀ raw, Token.opening name written true ≠ .text raw := fun _ => nofun
  rw [splitsWord_cons_iff hopening]
  exact (or_iff_right not_splitsWord_nil).symm

/-- Content without the notes. -/
theorem Content.Spelled.exists_rejoined (h : c.Spelled ts) : ∃ c', Rejoined drops ts c c' := by
  induction h with
  | nil => exact ⟨.nil, .nil⟩
  | skipped ht _ ih =>
      obtain ⟨c', ih⟩ := ih
      exact ⟨c', ih.skipped ht⟩
  | @white c raw ts hraw _ ih =>
      obtain ⟨c', ih⟩ := ih
      obtain ⟨value, hvalue, hwords⟩ := exists_unescape?_of_white hraw
      refine ih.text (drops_eq_false hdrops rfl) hvalue ?_ rfl
      rw [hwords, List.nil_append]
  | @text c raw core ts hraw hcore _ ih =>
      obtain ⟨c', ih⟩ := ih
      obtain ⟨value, hvalue, hwords⟩ := exists_unescape? hcore
      refine ih.text (drops_eq_false hdrops rfl) hvalue ?_ rfl
      rw [words_text, String.toList_ofList, hwords]
  | cdata _ ih =>
      obtain ⟨c', ih⟩ := ih
      exact ⟨_, ih.cdata (drops_eq_false hdrops rfl)⟩
  | @childless c name written attributes ts hattributes _ ih =>
      obtain ⟨c', ih⟩ := ih
      have hspelled : Spelled (.element name attributes .nil c') _ :=
        .childless hattributes ih.spelled
      rw [← dropTokens_childless hdrops] at hspelled
      exact ⟨_, Rejoined.nil.element ih hspelled (splitsWord_childless_iff ts)⟩
  | @element children c name written attributes inner ts hattributes _ _ ihChildren ih =>
      obtain ⟨children', ihChildren⟩ := ihChildren
      obtain ⟨c', ih⟩ := ih
      have hspelled : Spelled (.element name attributes children' c') _ :=
        .element hattributes ihChildren.spelled ih.spelled
      rw [← dropTokens_tagged hdrops] at hspelled
      exact ⟨_, ihChildren.element ih hspelled (splitsWord_tagged_iff hdrops inner ts)⟩

/-- An element without the notes. -/
theorem Element.Spelled.exists_rejoined {e : Element} {root : List Token} (h : e.Spelled root) :
    ∃ e' : Element, e'.Spelled (dropTokens drops root) ∧ Rejoined drops root e.alone e'.alone := by
  cases h with
  | @childless name written attributes hattributes =>
      have hdrop : dropTokens drops [.opening name written true] = [.opening name written true] :=
        dropTokens_childless hdrops []
      have hspelled : Content.Spelled (.element name attributes .nil .nil) _ :=
        .childless hattributes .nil
      rw [← hdrop] at hspelled
      refine ⟨⟨name, attributes, .nil⟩, ?_, ?_⟩
      · rw [hdrop]
        exact .childless hattributes
      · exact Rejoined.nil.element .nil hspelled (splitsWord_childless_iff [])
  | @tagged children name written attributes inner hattributes hchildren =>
      obtain ⟨children', hchildren⟩ := hchildren.exists_rejoined hdrops
      have hdrop : dropTokens drops (.opening name written false :: (inner ++ [.closing name])) =
          .opening name written false :: (dropTokens drops inner ++ [.closing name]) :=
        dropTokens_tagged hdrops inner []
      have hspelled : Content.Spelled (.element name attributes children' .nil) _ :=
        .element hattributes hchildren.spelled .nil
      rw [← hdrop] at hspelled
      refine ⟨⟨name, attributes, children'⟩, ?_, ?_⟩
      · rw [hdrop]
        exact .tagged hattributes hchildren.spelled
      · exact hchildren.element .nil hspelled (splitsWord_tagged_iff hdrops inner [])

end Documents

end MetadataHarvest.Markup
