import MetadataHarvest.Markup.Element
import MetadataHarvest.Proofs.Text.Tidy

/-!
# The text of an element

The text of an element is put together from the texts of its children. It has the words of all
character data below the element, in document order, with single spaces between them, and it does
not tell how the character data is spread over elements.
-/

namespace MetadataHarvest.Markup

open MetadataHarvest.Text

namespace Content

theorem words_text (value : String) (c : Content) :
    (text value c).words = Text.words value.toList ++ c.words := by
  rw [words, texts, List.flatMap_cons]
  rfl

theorem words_element (name : String) (attributes : List (String × String))
    (children c : Content) :
    (element name attributes children c).words = children.words ++ c.words := by
  rw [words, texts, List.flatMap_append]
  rfl

theorem isWord_of_mem_words (c : Content) : ∀ w ∈ c.words, IsWord w := by
  intro w hw
  obtain ⟨value, -, hw⟩ := List.mem_flatMap.mp hw
  exact Text.isWord_of_mem_words w hw

/-- All character data in one text, with a space before each piece of it. -/
def gathered : Content → List Char
  | nil => []
  | text value rest => ' ' :: (value.toList ++ rest.gathered)
  | element _ _ children rest => children.gathered ++ rest.gathered

theorem not_beginsWithWord_gathered (c : Content) : ¬BeginsWithWord c.gathered := by
  induction c with
  | nil =>
      rintro ⟨c, hc, -⟩
      cases hc
  | text value rest =>
      rintro ⟨c, hc, hblank⟩
      obtain rfl : ' ' = c := Option.some.inj hc
      rw [isBlank_space] at hblank
      cases hblank
  | element name attributes children rest ihChildren ihRest =>
      rw [gathered]
      cases hchildren : children.gathered with
      | nil => exact ihRest
      | cons d ds =>
          rw [hchildren] at ihChildren
          exact ihChildren

/-- No word goes on from one piece of character data to the next. -/
theorem words_gathered (c : Content) : Text.words c.gathered = c.words := by
  induction c with
  | nil => rfl
  | text value rest ih =>
      rw [gathered, words_cons_blank isBlank_space, words_text,
        words_append fun h => rest.not_beginsWithWord_gathered h.2, ih]
  | element name attributes children rest ihChildren ihRest =>
      rw [gathered, words_element, words_append fun h => rest.not_beginsWithWord_gathered h.2,
        ihChildren, ihRest]

end Content

namespace Node

/-- The words of a node. -/
def words : Node → List (List Char)
  | text value => Text.words value.toList
  | element e => e.content.words

/-- The text of a node: a piece of character data with single spaces between its words, or the
text of an element. -/
def shown : Node → String
  | text value => String.ofList (joinWords (Text.words value.toList))
  | element e => e.text

theorem shown_eq (n : Node) : n.shown = String.ofList (joinWords n.words) := by
  cases n with
  | text value => rfl
  | element e => rfl

theorem isWord_of_mem_words (n : Node) : ∀ w ∈ n.words, IsWord w := by
  cases n with
  | text value => exact Text.isWord_of_mem_words
  | element e => exact e.content.isWord_of_mem_words

end Node

theorem Content.words_eq_flatten (c : Content) : c.words = (c.nodes.map Node.words).flatten := by
  induction c with
  | nil => rfl
  | text value rest ih =>
      rw [words_text, nodes, List.map_cons, List.flatten_cons, ← ih]
      rfl
  | element name attributes children rest _ ih =>
      rw [words_element, nodes, List.map_cons, List.flatten_cons, ← ih]
      rfl

namespace Element

theorem words_text (e : Element) : words e.text.toList = e.content.words := by
  rw [text, String.toList_ofList, words_joinWords e.content.isWord_of_mem_words]

theorem text_eq_iff {e e' : Element} : e'.text = e.text ↔ e'.content.words = e.content.words := by
  constructor
  · intro h
    rw [← words_text, h, words_text]
  · intro h
    rw [text, text, h]

/-- The text of an element is that of its nodes, joined by single spaces. -/
theorem text_eq_intercalate (e : Element) :
    e.text = " ".intercalate ((e.nodes.map Node.shown).filter (· ≠ "")) := by
  have hwords : ∀ ws ∈ e.nodes.map Node.words, ∀ w ∈ ws, IsWord w := by
    rw [List.forall_mem_map]
    exact fun n _ => n.isWord_of_mem_words
  have hshown : ((e.nodes.map Node.shown).filter (· ≠ "")).map String.toList =
      ((e.nodes.map Node.words).map joinWords).filter (· ≠ []) := by
    rw [List.map_map, List.filter_map, List.filter_map, List.map_map]
    congr 1
    · funext n
      simp [Node.shown_eq]
    · congr 1
      funext n
      simp [Node.shown_eq]
  rw [← String.toList_inj, String.toList_intercalate, hshown, text, String.toList_ofList,
    Content.words_eq_flatten]
  exact joinWords_flatten hwords

/-- An element has the text of its character data as a whole, which is the texts of its nodes with
single spaces between them. It has the words of the character data, none more and none less and in
the same order, and no other blanks than single spaces between words. So elements have the same
text exactly when their character data has the same words, whatever the elements around it are. -/
theorem text_joins_shown (e : Element) :
    e.text = String.ofList (joinWords (words e.content.gathered)) ∧
      e.text = " ".intercalate ((e.nodes.map Node.shown).filter (· ≠ "")) ∧
      words e.text.toList = (e.content.texts.flatMap fun value => words value.toList) ∧
      IsCollapsed e.text.toList ∧
      ∀ e' : Element, e'.text = e.text ↔
        (e'.content.texts.flatMap fun value => words value.toList) =
          e.content.texts.flatMap fun value => words value.toList := by
  refine ⟨?_, e.text_eq_intercalate, e.words_text, ?_, fun e' => text_eq_iff⟩
  · rw [Content.words_gathered, text]
  · rw [text, String.toList_ofList]
    exact isCollapsed_joinWords e.content.isWord_of_mem_words

example : text ⟨"a", [], .text " x\n y" (.element "b" [] (.text " " .nil)
    (.element "c" [] (.text "z" .nil) .nil))⟩ = "x y z" := by decide

end Element

end MetadataHarvest.Markup
