import MetadataHarvest.Proofs.Markup.Enclosure
import MetadataHarvest.Proofs.Markup.RoundTrip
import MetadataHarvest.Proofs.Text.Words

/-!
# Character data in pieces

A text may be written as character data or be split into character data and CDATA sections in
any way. Each piece becomes a node of its own, of which only character data loses its outer
white space, so the words of the element that is read are those of the pieces, one after the
other, whatever they were as a whole.
-/

namespace MetadataHarvest.Markup

open MetadataHarvest.Text

/-- The mark that ends a CDATA section. -/
def sectionEnd : List Char := [']', ']', '>']

def writtenSection (content : List Char) : List Char :=
  '<' :: '!' :: "[CDATA[".toList ++ content ++ sectionEnd

/-- A CDATA section and the character data after it. -/
structure Section where
  content : String
  after : String

/-- A text in pieces: character data with CDATA sections in between, none of which has the mark
in it that ends one. -/
structure Pieces where
  lead : String
  sections : List Section
  unmarked : ∀ s ∈ sections, ¬sectionEnd <:+: s.content.toList

/-- The nodes that character data becomes. -/
def dataNodes (value : String) : List Node :=
  if trimSpace value.toList = [] then []
  else [.text (String.ofList (trimSpace value.toList))]

namespace Section

def written (s : Section) : List Char :=
  writtenSection s.content.toList ++ escape s.after.toList

def nodes (s : Section) : List Node := .text s.content :: dataNodes s.after

end Section

namespace Pieces

/-- The pieces, in order. -/
def texts (p : Pieces) : List String :=
  p.lead :: p.sections.flatMap fun s => [s.content, s.after]

/-- The text of which these are the pieces. -/
def whole (p : Pieces) : String := String.ofList (p.texts.flatMap String.toList)

/-- The words of the pieces. A word that was split is more than one. -/
def words (p : Pieces) : List (List Char) := p.texts.flatMap fun t => Text.words t.toList

def written (p : Pieces) : List Char :=
  escape p.lead.toList ++ p.sections.flatMap Section.written

/-- The nodes that the pieces become. -/
def nodes (p : Pieces) : List Node := dataNodes p.lead ++ p.sections.flatMap Section.nodes

end Pieces

section Words

/-- Character data keeps its words. -/
theorem words_dataNodes (value : String) :
    (Content.ofNodes (dataNodes value)).words = Text.words value.toList := by
  have hwords : Text.words (trimSpace value.toList) = Text.words value.toList :=
    words_trimWhile (fun _ => isBlank_of_isSpace) _
  unfold dataNodes
  split
  · next h => 
      rw [← hwords, h]
      rfl
  · rw [← hwords]
    simp [Content.ofNodes, Content.words, Content.texts]

theorem words_ofNodes_append (front back : List Node) :
    (Content.ofNodes (front ++ back)).words =
      (Content.ofNodes front).words ++ (Content.ofNodes back).words := by
  simp only [Content.words, Content.texts_ofNodes_append, List.flatMap_append]

theorem words_sections (sections : List Section) :
    (Content.ofNodes (sections.flatMap Section.nodes)).words =
      (sections.flatMap fun s => [s.content, s.after]).flatMap fun t => Text.words t.toList := by
  induction sections with
  | nil => rfl
  | cons s sections ih =>
      have hsection : (Content.ofNodes s.nodes).words =
          Text.words s.content.toList ++ Text.words s.after.toList := by
        rw [← words_dataNodes s.after]
        rfl
      rw [List.flatMap_cons, words_ofNodes_append, hsection, ih]
      simp

/-- The words of the nodes are those of the pieces. -/
theorem Pieces.words_nodes (p : Pieces) : (Content.ofNodes p.nodes).words = p.words := by
  rw [nodes, words_ofNodes_append, words_dataNodes, words_sections]
  rfl

theorem Pieces.isWord_of_mem_words (p : Pieces) : ∀ w ∈ p.words, IsWord w := by
  intro w hw
  obtain ⟨t, -, hmem⟩ := List.mem_flatMap.mp hw
  exact Text.isWord_of_mem_words w hmem

/-- The pieces have no words only when the whole is blank. -/
theorem Pieces.trimmed_whole_of_words (p : Pieces) (h : p.words = []) : trimmed p.whole = "" := by
  have hflatten : p.words.flatten = p.whole.toList.filter (!isBlank ·) := by
    rw [words, whole, String.toList_ofList]
    induction p.texts with
    | nil => rfl
    | cons t texts ih => simp [ih, flatten_words]
  rw [h] at hflatten
  rw [trimmed, trim_eq_nil hflatten.symm]

end Words

namespace Token

/-- A CDATA section is one token. -/
theorem next?_section {content : List Char} (h : ¬sectionEnd <:+: content) (rest : List Char) :
    next? (writtenSection content ++ rest) = some (.cdata content, rest) := by
  have hmark (cs : List Char) : "[CDATA[".toList ++ cs =
      '[' :: 'C' :: 'D' :: 'A' :: 'T' :: 'A' :: '[' :: cs := by simp
  have hcomment (cs : List Char) :
      afterIgnoringCase? ['-', '-'] ("[CDATA[".toList ++ cs) = none := by
    rw [hmark]
    simp [afterIgnoringCase?]
  have hafter (cs : List Char) :
      afterIgnoringCase? "[CDATA[".toList ("[CDATA[".toList ++ cs) = some cs := by
    simp [afterIgnoringCase?]
  have honce : '>' ∉ [']', ']'] := by decide
  have hbreak : breakOn? [']', ']', '>'] (content ++ (sectionEnd ++ rest)) =
      some (content, rest) := breakOn?_append_of_not_infix honce h rest
  have hdeclaration : declaration ("[CDATA[".toList ++ (content ++ (sectionEnd ++ rest))) =
      (.cdata content, rest) := by
    rw [declaration, hcomment, hafter]
    simp only [hbreak]
  have hwritten : writtenSection content ++ rest =
      '<' :: '!' :: ("[CDATA[".toList ++ (content ++ (sectionEnd ++ rest))) := by
    simp only [writtenSection, List.append_assoc, List.cons_append]
  rw [hwritten, next?, markup?, hdeclaration]

end Token

namespace Progress

/-- Character data becomes its nodes. -/
theorem text?_data (value : String) (p : Progress) :
    p.text? (escape value.toList) = some ((dataNodes value).foldl attach p) := by
  rw [text?, trimSpace_escape, unescape?_escape, dataNodes]
  by_cases htrim : trimSpace value.toList = []
  · simp [htrim]
  · have hfilled : escape (trimSpace value.toList) ≠ [] := mt escape_eq_nil_iff.mp htrim
    cases hstack : p.stack with
    | nil => simp [htrim, attach, hstack]
    | cons e outer => simp [htrim, hfilled]

theorem attaches_data (value : String) :
    Attaches (escape value.toList) (dataNodes value) := by
  intro p rest hrest
  by_cases hne : escape value.toList = []
  · have hnil := escape_eq_nil_iff.mp hne
    simp [dataNodes, hnil, trimSpace]
  · rw [read?_of_next? (Token.next?_text hne (bracket_not_mem_escape _) hrest), step?, text?_data]
    rfl

theorem attaches_section {s : Section} (h : ¬sectionEnd <:+: s.content.toList) :
    Attaches s.written s.nodes := by
  intro p rest hrest
  simp only [Section.written, List.append_assoc]
  rw [read?_of_next? (Token.next?_section h _), step?, Option.bind_some, String.ofList_toList,
    attaches_data s.after _ _ hrest]
  rfl

/-- A section and all before it are followed by a tag, which may be the next section. -/
theorem attaches_sections {sections : List Section}
    (h : ∀ s ∈ sections, ¬sectionEnd <:+: s.content.toList) :
    Attaches (sections.flatMap Section.written) (sections.flatMap Section.nodes) := by
  induction sections with
  | nil =>
      intro p rest _
      rfl
  | cons s sections ih =>
      intro p rest hrest
      rw [List.forall_mem_cons] at h
      have hmore : AtTag (sections.flatMap Section.written ++ rest) := by
        cases sections with
        | nil => exact hrest
        | cons s' sections => exact atTag_cons _
      rw [List.flatMap_cons, List.append_assoc, attaches_section h.1 _ _ hmore,
        ih h.2 _ _ hrest, List.flatMap_cons, List.foldl_append]

/-- Reading the pieces attaches their nodes one after the other. -/
theorem attaches_pieces (pieces : Pieces) : Attaches pieces.written pieces.nodes := by
  intro p rest hrest
  have hmore : AtTag (pieces.sections.flatMap Section.written ++ rest) := by
    cases pieces.sections with
    | nil => exact hrest
    | cons s sections => exact atTag_cons _
  rw [Pieces.written, List.append_assoc, attaches_data pieces.lead _ _ hmore,
    attaches_sections pieces.unmarked _ _ hrest, Pieces.nodes, List.foldl_append]

end Progress

end MetadataHarvest.Markup
