import MetadataHarvest.Proofs.Markup.Rejoining

/-!
# Character data between tags

Comments, instructions and sections cut the character data between two tags into pieces. The text
of an element is made of the words of the pieces. A reader that joins the pieces first finds the
same words, unless a word goes on from one piece to the next, and it does not find those of the
child elements.
-/

namespace MetadataHarvest.Markup

open MetadataHarvest.Text

/-- The characters that a token stands for; none when it ends the character data before it. -/
def Token.data? : Token → Option (List Char)
  | .text raw => unescape? raw
  | .cdata content => some content
  | .comment _ | .instruction _ => some []
  | .doctype _ | .opening _ _ _ | .closing _ | .malformed => none

/-- The characters up to the next token that stands for none. -/
def dataBefore : List Token → List Char
  | [] => []
  | t :: ts =>
    match t.data? with
    | some value => value ++ dataBefore ts
    | none => []

/-- Whether a word goes on in the next piece of character data. -/
inductive CutsWord : List Token → Prop
  | here {t : Token} {ts : List Token} {value : List Char} (hdata : t.data? = some value)
      (hends : EndsInWord value) (hbegins : BeginsWithWord (dataBefore ts)) : CutsWord (t :: ts)
  | later {t : Token} {ts : List Token} (h : CutsWord ts) : CutsWord (t :: ts)

/-- The words of the character data on the top level. -/
def Content.ownWords : Content → List (List Char)
  | nil => []
  | text value rest => Text.words value.toList ++ rest.ownWords
  | element _ _ _ rest => rest.ownWords

variable {c children c₀ : Content} {t : Token} {ts us inner : List Token} {d value : List Char}

section Cut

theorem words_ne_nil (h : EndsInWord value) : words value ≠ [] := by
  obtain ⟨c, hc, hblank⟩ := h
  intro hwords
  have hletters := flatten_words value
  rw [hwords, List.flatten_nil] at hletters
  have hmem : c ∈ value.filter (!isBlank ·) :=
    List.mem_filter.mpr ⟨List.mem_of_mem_getLast? hc, by simp [hblank]⟩
  rw [← hletters] at hmem
  cases hmem

theorem not_endsInWord_nil : ¬EndsInWord [] := fun h => h.ne_nil rfl

theorem not_beginsWithWord_nil : ¬BeginsWithWord [] := by
  rintro ⟨c, hc, -⟩
  cases hc

theorem dataBefore_cons (hdata : t.data? = some value) (ts : List Token) :
    dataBefore (t :: ts) = value ++ dataBefore ts := by
  rw [dataBefore, hdata]

theorem dataBefore_tag (htag : t.data? = none) (ts : List Token) : dataBefore (t :: ts) = [] := by
  rw [dataBefore, htag]

theorem not_cutsWord_nil : ¬CutsWord [] := nofun

theorem cutsWord_cons_iff (hdata : t.data? = some value) :
    CutsWord (t :: ts) ↔ (EndsInWord value ∧ BeginsWithWord (dataBefore ts)) ∨ CutsWord ts := by
  constructor
  · intro h
    cases h with
    | here hdata' hends hbegins =>
        obtain rfl := Option.some.inj (hdata.symm.trans hdata')
        exact .inl ⟨hends, hbegins⟩
    | later h => exact .inr h
  · rintro (⟨hends, hbegins⟩ | h)
    · exact .here hdata hends hbegins
    · exact .later h

theorem cutsWord_tag_iff (htag : t.data? = none) : CutsWord (t :: ts) ↔ CutsWord ts := by
  refine ⟨fun h => ?_, .later⟩
  cases h with
  | here hdata _ _ =>
      rw [htag] at hdata
      cases hdata
  | later h => exact h

theorem dataBefore_append_tag (htag : t.data? = none) (us ts : List Token) :
    dataBefore (us ++ t :: ts) = dataBefore us := by
  induction us with
  | nil => exact dataBefore_tag htag ts
  | cons u us ih => rw [List.cons_append, dataBefore, dataBefore, ih]

/-- No word goes on across a tag. -/
theorem cutsWord_append_tag_iff (htag : t.data? = none) (us ts : List Token) :
    CutsWord (us ++ t :: ts) ↔ CutsWord us ∨ CutsWord ts := by
  induction us with
  | nil =>
      rw [List.nil_append, cutsWord_tag_iff htag]
      exact (or_iff_right not_cutsWord_nil).symm
  | cons u us ih =>
      rw [List.cons_append]
      cases hdata : u.data? with
      | none => rw [cutsWord_tag_iff hdata, cutsWord_tag_iff hdata, ih]
      | some value =>
          rw [cutsWord_cons_iff hdata, cutsWord_cons_iff hdata, dataBefore_append_tag htag, ih,
            or_assoc]

end Cut

section OwnWords

theorem Content.length_ownWords_le (c : Content) : c.ownWords.length ≤ c.words.length := by
  induction c with
  | nil => exact Nat.le_refl _
  | text value rest ih =>
      rw [words_text, ownWords, List.length_append, List.length_append]
      omega
  | element name attributes children rest _ ih =>
      rw [words_element, ownWords, List.length_append]
      omega

/-- All words are on the top level exactly when the child elements have none. -/
theorem Content.ownWords_eq_words_iff :
    c.ownWords = c.words ↔ ∀ e ∈ c.elements, e.content.words = [] := by
  induction c with
  | nil => exact ⟨fun _ => nofun, fun _ => rfl⟩
  | text value rest ih =>
      rw [words_text, ownWords, elements, List.append_cancel_left_eq, ih]
  | element name attributes children rest _ ih =>
      rw [words_element, ownWords, elements, List.forall_mem_cons, ← ih]
      constructor
      · intro h
        have hlength := congrArg List.length h
        rw [List.length_append] at hlength
        have hle := rest.length_ownWords_le
        have hnil : children.words = [] := List.eq_nil_of_length_eq_zero (by omega)
        rw [hnil, List.nil_append] at h
        exact ⟨hnil, h⟩
      · rintro ⟨hnil, h⟩
        rw [hnil, List.nil_append, h]

/-- A word that is cut is one of the words. -/
theorem Content.Spelled.words_ne_nil (h : c.Spelled ts) (hcuts : CutsWord ts) : c.words ≠ [] := by
  have happend (ws vs : List (List Char)) : ws ++ vs ≠ [] ↔ ws ≠ [] ∨ vs ≠ [] := by
    rw [ne_eq, List.append_eq_nil_iff, Classical.not_and_iff_not_or_not]
  induction h with
  | nil => exact absurd hcuts not_cutsWord_nil
  | @skipped c t ts ht _ ih =>
      cases hcuts with
      | here hdata hends _ =>
          cases t with
          | comment _ | instruction _ =>
              obtain rfl := Option.some.inj hdata
              exact absurd hends not_endsInWord_nil
          | doctype _ => cases hdata
          | text _ | cdata _ | opening _ _ _ | closing _ | malformed => cases ht
      | later hcuts => exact ih hcuts
  | white hraw _ ih =>
      cases hcuts with
      | here hdata hends _ =>
          obtain ⟨value, hvalue, hwords⟩ := exists_unescape?_of_white hraw
          obtain rfl := Option.some.inj (hvalue.symm.trans hdata)
          exact absurd hwords (Markup.words_ne_nil hends)
      | later hcuts => exact ih hcuts
  | @text c raw core ts _ hcore _ ih =>
      rw [words_text, String.toList_ofList, happend]
      cases hcuts with
      | here hdata hends _ =>
          obtain ⟨value, hvalue, hwords⟩ := exists_unescape? hcore
          obtain rfl := Option.some.inj (hvalue.symm.trans hdata)
          exact .inl (hwords ▸ Markup.words_ne_nil hends)
      | later hcuts => exact .inr (ih hcuts)
  | @cdata c content ts _ ih =>
      rw [words_text, String.toList_ofList, happend]
      cases hcuts with
      | here hdata hends _ =>
          obtain rfl := Option.some.inj hdata
          exact .inl (Markup.words_ne_nil hends)
      | later hcuts => exact .inr (ih hcuts)
  | childless _ _ ih =>
      rw [words_element, happend]
      exact .inr (ih ((cutsWord_tag_iff rfl).mp hcuts))
  | element _ _ _ ihChildren ih =>
      rw [words_element, happend]
      rw [cutsWord_tag_iff rfl, cutsWord_append_tag_iff rfl] at hcuts
      exact hcuts.imp ihChildren ih

end OwnWords

/-- Whether a word goes on from `d` to the tokens, or from one piece to the next in them. -/
def CutsWordAfter (d : List Char) (ts : List Token) : Prop :=
  (EndsInWord d ∧ BeginsWithWord (dataBefore ts)) ∨ CutsWord ts

/-- The texts are those on the top level of content, with `d` in front of them. They have the same
letters as the pieces, and the same words unless a word is cut. -/
structure Joined (d : List Char) (ts : List Token) (c : Content) (texts : List (List Char)) :
    Prop where
  letters : (texts.flatMap words).flatten = (words d ++ c.ownWords).flatten
  same : ¬CutsWordAfter d ts → texts.flatMap words = words d ++ c.ownWords
  fewer : CutsWordAfter d ts → (texts.flatMap words).length < (words d ++ c.words).length

namespace Joined

variable {texts more : List (List Char)}

theorem length_words_le (h : Joined d ts c texts) :
    (texts.flatMap words).length ≤ (words d ++ c.words).length := by
  by_cases hcuts : CutsWordAfter d ts
  · exact (h.fewer hcuts).le
  · have hown := c.length_ownWords_le
    rw [h.same hcuts, List.length_append, List.length_append]
    omega

/-- At a tag the text before it is over. -/
protected theorem nil (h : texts.flatMap words = words d) : Joined d [] .nil texts where
  letters := by rw [h, Content.ownWords, List.append_nil]
  same _ := by rw [h, Content.ownWords, List.append_nil]
  fewer hcuts := by
    obtain ⟨-, hbegins⟩ | hcuts := hcuts
    · exact absurd hbegins not_beginsWithWord_nil
    · exact absurd hcuts not_cutsWord_nil

/-- A piece of character data goes on from the one before it. -/
theorem data (hdata : t.data? = some value) (h : Joined (d ++ value) ts c₀ texts)
    (hwords : c.words = words value ++ c₀.words)
    (hown : c.ownWords = words value ++ c₀.ownWords) : Joined d (t :: ts) c texts := by
  have hcuts : CutsWordAfter d (t :: ts) ↔
      (EndsInWord d ∧ BeginsWithWord value) ∨ CutsWordAfter (d ++ value) ts := by
    rw [CutsWordAfter, CutsWordAfter, cutsWord_cons_iff hdata, dataBefore_cons hdata]
    by_cases hne : value = []
    · subst hne
      simp [not_endsInWord_nil, not_beginsWithWord_nil]
    · have hbegins : BeginsWithWord (value ++ dataBefore ts) ↔ BeginsWithWord value := by
        rw [BeginsWithWord, List.head?_append_of_ne_nil _ hne, BeginsWithWord]
      rw [hbegins, endsInWord_append hne]
  have hlength := h.length_words_le
  constructor
  case letters =>
    have hletters := h.letters
    simp only [List.flatten_append, flatten_words, List.filter_append, hown] at hletters ⊢
    rw [hletters, List.append_assoc]
  case same =>
    intro hnot
    rw [hcuts, not_or] at hnot
    rw [h.same hnot.2, words_append hnot.1, hown, List.append_assoc]
  case fewer =>
    intro hcut
    rw [hwords]
    by_cases hseam : EndsInWord d ∧ BeginsWithWord value
    · have hjoined := length_words_append hseam.1 hseam.2
      simp only [List.length_append] at hlength ⊢
      omega
    · have hfewer := h.fewer ((hcuts.mp hcut).resolve_left hseam)
      rwa [words_append hseam, List.append_assoc] at hfewer

/-- What stands for no characters ends a text. -/
theorem close (htag : t.data? = none) (hd : texts.flatMap words = words d)
    (h : Joined [] ts c more) : Joined d (t :: ts) c (texts ++ more) := by
  have hcuts : CutsWordAfter d (t :: ts) ↔ CutsWordAfter [] ts := by
    rw [CutsWordAfter, CutsWordAfter, cutsWord_tag_iff htag, dataBefore_tag htag]
    simp [not_endsInWord_nil, not_beginsWithWord_nil]
  constructor
  case letters =>
    rw [List.flatMap_append, hd, List.flatten_append, h.letters]
    simp
  case same =>
    intro hnot
    rw [List.flatMap_append, hd, h.same (mt hcuts.mpr hnot), words_nil, List.nil_append]
  case fewer =>
    intro hcut
    have hfewer := h.fewer (hcuts.mp hcut)
    rw [List.flatMap_append, hd, List.length_append, List.length_append]
    simpa using hfewer

/-- The words of a child element are not among those of the texts. -/
theorem element {name : String} {attributes : List (String × String)}
    (hchildren : children.Spelled inner) (h : Joined d ts c texts)
    (hcuts : CutsWordAfter d us → CutsWord inner ∨ CutsWordAfter d ts)
    (hnot : CutsWordAfter d ts → CutsWordAfter d us) :
    Joined d us (.element name attributes children c) texts where
  letters := h.letters
  same hwhole := h.same (mt hnot hwhole)
  fewer hcut := by
    have hlength := h.length_words_le
    rw [Content.words_element]
    obtain hinner | hcut := hcuts hcut
    · have hpositive := List.length_pos_of_ne_nil (hchildren.words_ne_nil hinner)
      simp only [List.length_append] at hlength ⊢
      omega
    · have hfewer := h.fewer hcut
      simp only [List.length_append] at hfewer ⊢
      omega

/-- The texts have the words of the content if and only if the child elements have none and no
word is cut. -/
theorem words_eq_iff (h : Joined [] ts c texts) :
    texts.flatMap words = c.words ↔
      (∀ e ∈ c.elements, e.content.words = []) ∧ ¬CutsWord ts := by
  have hcuts : CutsWordAfter [] ts ↔ CutsWord ts := by
    simp [CutsWordAfter, not_endsInWord_nil]
  have hsame : ¬CutsWord ts → texts.flatMap words = c.ownWords := fun hnot =>
    h.same (mt hcuts.mp hnot)
  rw [← Content.ownWords_eq_words_iff]
  constructor
  · intro heq
    have hnot : ¬CutsWord ts := by
      intro hcut
      have hfewer := h.fewer (hcuts.mpr hcut)
      rw [heq] at hfewer
      exact absurd hfewer (Nat.lt_irrefl _)
    exact ⟨(hsame hnot).symm.trans heq, hnot⟩
  · rintro ⟨hown, hnot⟩
    rw [hsame hnot, hown]

end Joined

end MetadataHarvest.Markup
