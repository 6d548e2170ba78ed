import MetadataHarvest.Markup.Canonical
import MetadataHarvest.Protocol.Namespaces
import MetadataHarvest.Proofs.Markup.Tag

/-!
# Texts without namespaces

A tree without attributes may be written with a prefix at every name, and with a declaration at
its root. When namespaces are removed the text is that of the tree without them. No declaration
is found in its character data, whatever this is, since a declaration has quotation marks and
written character data has none; and no tag, since it has no angle bracket either.
-/

namespace MetadataHarvest.Protocol

open Markup Text

/-- The characters of names without prefixes. -/
def isPlainChar (c : Char) : Bool := c.isAlphanum || c == '_' || c == '-' || c == '.'

/-- Whether a text is a name without a prefix, which is also what a prefix may be. -/
def isPlainName (s : String) : Bool :=
  match s.toList with
  | [] => false
  | c :: cs => c.isAlpha && cs.all isPlainChar

/-- A name with a prefix, if there is one. -/
def qualified (q : Option String) (name : String) : String :=
  match q with
  | none => name
  | some p => p ++ ":" ++ name

/-- The name of the attribute that declares a prefix, or the namespace of names without one. -/
def declarationName (q : Option String) : String :=
  match q with
  | none => "xmlns"
  | some p => "xmlns:" ++ p

end MetadataHarvest.Protocol

namespace MetadataHarvest.Markup

open Protocol

/-- Content with a prefix at every name. -/
def Content.qualify (q : Option String) : Content → Content
  | .nil => .nil
  | .text value rest => .text value (rest.qualify q)
  | .element name attributes children rest =>
    .element (qualified q name) attributes (children.qualify q) (rest.qualify q)

/-- Whether no element has attributes and no name has a prefix. -/
def Content.isPlain : Content → Bool
  | .nil => true
  | .text _ rest => rest.isPlain
  | .element name attributes children rest =>
    isPlainName name && attributes.isEmpty && children.isPlain && rest.isPlain

end MetadataHarvest.Markup

namespace MetadataHarvest.Protocol

open Markup Text

section Character

theorem toNat_lt_of_isPlainChar {c : Char} (h : isPlainChar c = true) : c.toNat < 128 := by
  simp only [isPlainChar, Bool.or_eq_true, beq_iff_eq] at h
  rcases h with ((h | rfl) | rfl) | rfl
  · exact toNat_lt_of_isAlphanum h
  all_goals decide

/-- What is known of the characters of plain names: they are not blank, and they may stand in a
prefix and in a name. -/
theorem isPlainChar_spec {c : Char} (h : isPlainChar c = true) :
    isBlank c = false ∧ isNameChar c = true ∧ Markup.isNameChar c = true := by
  have hascii := toNat_lt_of_isPlainChar h
  revert h
  exact forall_ascii hascii (by decide +kernel)

theorem isPlainChar_of_isAlpha {c : Char} (h : c.isAlpha = true) : isPlainChar c = true := by
  have halphanum : c.isAlphanum = true := Bool.or_eq_true_iff.mpr (.inl h)
  simp [isPlainChar, halphanum]

/-- A plain name is made of such characters, and has some. -/
theorem isPlainName_iff {name : String} :
    isPlainName name = true ↔
      (∃ c cs, name.toList = c :: cs ∧ c.isAlpha = true) ∧
        ∀ c ∈ name.toList, isPlainChar c = true := by
  unfold isPlainName
  cases hname : name.toList with
  | nil => simp
  | cons c cs =>
      rw [Bool.and_eq_true, List.all_eq_true, List.forall_mem_cons]
      constructor
      · rintro ⟨hfirst, hrest⟩
        exact ⟨⟨c, cs, rfl, hfirst⟩, isPlainChar_of_isAlpha hfirst, hrest⟩
      · rintro ⟨⟨c', cs', heq, hfirst⟩, -, hrest⟩
        obtain ⟨rfl, rfl⟩ := List.cons.inj heq
        exact ⟨hfirst, hrest⟩

theorem isName_of_isPlainName {name : String} (h : isPlainName name = true) :
    isName name = true := by
  obtain ⟨⟨c, cs, hcons, hfirst⟩, hchars⟩ := isPlainName_iff.mp h
  rw [hcons, List.forall_mem_cons] at hchars
  simp only [isName, hcons, Bool.and_eq_true, List.all_eq_true]
  exact ⟨by simp [isNameStart, hfirst], fun d hd => (isPlainChar_spec (hchars.2 d hd)).2.2⟩

end Character

theorem isNamed_of_isPlain {c : Content} (h : c.isPlain = true) : c.isNamed = true := by
  induction c with
  | nil => rfl
  | text value rest ih => exact ih h
  | element name attributes children rest ihChildren ihRest =>
      simp only [Content.isPlain, Bool.and_eq_true, List.isEmpty_iff] at h
      obtain ⟨⟨⟨hname, rfl⟩, hchildren⟩, hrest⟩ := h
      simp [Content.isNamed, isName_of_isPlainName hname, ihChildren hchildren, ihRest hrest]

section Declaration

variable {cs rest : List Char}

theorem suffix_of_afterWord? {word : List Char} (h : afterWord? word cs = some rest) :
    rest <:+ cs := by
  unfold afterWord? at h
  split at h
  · exact Option.some.inj h ▸ List.drop_suffix _ _
  · cases h

theorem afterWord?_append (word rest : List Char) : afterWord? word (word ++ rest) = some rest := by
  simp [afterWord?]

theorem afterBoundPrefix_suffix (cs : List Char) : afterBoundPrefix cs <:+ cs := by
  unfold afterBoundPrefix
  split
  · split
    · exact List.suffix_rfl
    · exact (List.dropWhile_suffix _).trans (List.suffix_cons _ _)
  · exact List.suffix_rfl

/-- A declaration has a quotation mark. -/
theorem afterDeclaration?_eq_none (h : '"' ∉ cs) : afterDeclaration? cs = none := by
  rw [← Option.not_isSome_iff_eq_none]
  intro hsome
  obtain ⟨after, hafter⟩ := Option.isSome_iff_exists.mp hsome
  simp only [afterDeclaration?, Option.bind_eq_bind, Option.bind_eq_some_iff] at hafter
  obtain ⟨word, hword, binding, hbinding, value, hvalue, -⟩ := hafter
  have hmark : '"' ∈ binding.dropWhile isBlank := by
    unfold afterWord? at hvalue
    split at hvalue
    · next hhead => exact (List.isPrefixOf_iff_prefix.mp hhead).subset List.mem_cons_self
    · cases hvalue
  have hword : word <:+ cs := (suffix_of_afterWord? hword).trans (List.dropWhile_suffix _)
  have hbinding : binding <:+ word :=
    ((suffix_of_afterWord? hbinding).trans (List.dropWhile_suffix _)).trans
      (afterBoundPrefix_suffix word)
  exact h ((((List.dropWhile_suffix _).trans hbinding).trans hword).subset hmark)

theorem removeDeclarations_cons (c : Char) (cs : List Char) :
    removeDeclarations 0 (c :: cs) =
      match if isBlank c then afterDeclaration? cs else none with
      | some rest => removeDeclarations (cs.length - rest.length) cs
      | none => c :: removeDeclarations 0 cs := by
  rfl

theorem removeDeclarations_length (front rest : List Char) :
    removeDeclarations front.length (front ++ rest) = removeDeclarations 0 rest := by
  induction front with
  | nil => rw [List.length_nil, List.nil_append]
  | cons c front ih => exact ih

/-- A text without quotation marks stays as it is. -/
theorem removeDeclarations_of_not_mem (h : '"' ∉ cs) : removeDeclarations 0 cs = cs := by
  induction cs with
  | nil => rfl
  | cons c cs ih =>
      rw [List.mem_cons, not_or] at h
      rw [removeDeclarations_cons, afterDeclaration?_eq_none h.2, ite_self, ih h.2]

/-- A declaration has a blank before it. -/
theorem removeDeclarations_append {front : List Char} (h : ∀ c ∈ front, isBlank c = false)
    (rest : List Char) :
    removeDeclarations 0 (front ++ rest) = front ++ removeDeclarations 0 rest := by
  induction front with
  | nil => rw [List.nil_append, List.nil_append]
  | cons c front ih =>
      rw [List.forall_mem_cons] at h
      rw [List.cons_append, removeDeclarations_cons, if_neg (by simp [h.1]), ih h.2,
        List.cons_append]

theorem dropWhile_isBlank_cons {c : Char} (h : isBlank c = false) (cs : List Char) :
    (c :: cs).dropWhile isBlank = c :: cs := by
  rw [List.dropWhile_cons_of_neg]
  simp [h]

/-- A declared prefix ends at the equals sign. -/
theorem exists_declarationName {declared : Option String}
    (hdeclared : ∀ p ∈ declared, isPlainName p = true) :
    ∃ bound, (declarationName declared).toList = "xmlns".toList ++ bound ∧
      ∀ rest, afterBoundPrefix (bound ++ '=' :: rest) = '=' :: rest := by
  cases declared with
  | none => exact ⟨[], by simp [declarationName], fun rest => rfl⟩
  | some p =>
      refine ⟨':' :: p.toList, by simp [declarationName], fun rest => ?_⟩
      obtain ⟨⟨c, cs, hcons, -⟩, hchars⟩ := isPlainName_iff.mp (hdeclared p rfl)
      have hname : ∀ d ∈ p.toList, isNameChar d = true := fun d hd =>
        (isPlainChar_spec (hchars d hd)).2.1
      have hequals : ∀ d ∈ ('=' :: rest).head?, isNameChar d = false := by
        rintro d hd
        obtain rfl : '=' = d := by simpa using hd
        decide
      rw [List.cons_append, afterBoundPrefix, takeWhile_append_of_head? hname hequals,
        dropWhile_append_of_head? hname hequals, if_neg (by simp [hcons])]

/-- A declaration is found where it was written. -/
theorem afterDeclaration?_written {declared : Option String}
    (hdeclared : ∀ p ∈ declared, isPlainName p = true) {value : List Char} (hvalue : '"' ∉ value)
    (rest : List Char) :
    afterDeclaration? ((declarationName declared).toList ++ '=' :: '"' :: (value ++ '"' :: rest)) =
      some rest := by
  obtain ⟨bound, hname, hbound⟩ := exists_declarationName hdeclared
  have hword (cs : List Char) :
      ("xmlns".toList ++ cs).dropWhile isBlank = "xmlns".toList ++ cs := by
    have hfirst : isBlank 'x' = false := by decide
    simp [hfirst]
  have hvalue' : (value ++ '"' :: rest).dropWhile (· ≠ '"') = '"' :: rest := by
    apply dropWhile_append_of_head?
    · intro c hc
      rw [decide_eq_true_eq]
      rintro rfl
      exact hvalue hc
    · simp
  have hmark (c : Char) (cs : List Char) : afterWord? [c] (c :: cs) = some cs :=
    afterWord?_append [c] cs
  rw [hname, List.append_assoc, afterDeclaration?, hword, afterWord?_append]
  simp only [Option.bind_eq_bind, Option.bind_some, hbound,
    dropWhile_isBlank_cons (by decide : isBlank '=' = false),
    dropWhile_isBlank_cons (by decide : isBlank '"' = false), hmark, hvalue']

/-- A declaration is removed with the space before it. -/
theorem removeDeclarations_declaration {declared : Option String}
    (hdeclared : ∀ p ∈ declared, isPlainName p = true) (uri : String) (rest : List Char) :
    removeDeclarations 0 (writtenAttribute (declarationName declared, uri) ++ rest) =
      removeDeclarations 0 rest := by
  let declaration := (declarationName declared).toList ++ '=' :: '"' :: (escape uri.toList ++ ['"'])
  have hwritten : writtenAttribute (declarationName declared, uri) ++ rest =
      ' ' :: (declaration ++ rest) := by
    simp [writtenAttribute, declaration]
  have hafter : afterDeclaration? (declaration ++ rest) = some rest := by
    have hfound := afterDeclaration?_written hdeclared (quote_not_mem_escape uri.toList) rest
    simpa [declaration] using hfound
  have hlength : (declaration ++ rest).length - rest.length = declaration.length := by
    rw [List.length_append, Nat.add_sub_cancel]
  rw [hwritten, removeDeclarations_cons, if_pos isBlank_space, hafter]
  simp only [hlength]
  exact removeDeclarations_length declaration rest

end Declaration

section Tag

theorem removePrefixes_length (front rest : List Char) :
    removePrefixes front.length (front ++ rest) = removePrefixes 0 rest := by
  induction front with
  | nil => rw [List.length_nil, List.nil_append]
  | cons c front ih => exact ih

/-- A prefix comes after an angle bracket. -/
theorem removePrefixes_append {front : List Char} (h : '<' ∉ front) (rest : List Char) :
    removePrefixes 0 (front ++ rest) = front ++ removePrefixes 0 rest := by
  induction front with
  | nil => rw [List.nil_append, List.nil_append]
  | cons c front ih =>
      rw [List.mem_cons, not_or] at h
      rw [List.cons_append, removePrefixes, ih h.2, List.cons_append]
      · rintro tail rfl
        exact absurd rfl h.1
      · rintro rfl
        exact absurd rfl h.1

variable {q : Option String} (hq : ∀ p ∈ q, isPlainName p = true) {name : String}
  (hname : isPlainName name = true)

include hname in
theorem bracket_not_mem_name : '<' ∉ name.toList := by
  intro hmem
  exact absurd ((isPlainName_iff.mp hname).2 _ hmem) (by decide)

include hq hname in
/-- A name begins with a letter, with or without a prefix. -/
theorem exists_qualified : ∃ c cs, (qualified q name).toList = c :: cs ∧ c.isAlpha = true := by
  cases q with
  | none => exact (isPlainName_iff.mp hname).1
  | some p =>
      obtain ⟨⟨c, cs, hcons, hfirst⟩, -⟩ := isPlainName_iff.mp (hq p rfl)
      exact ⟨c, cs ++ ':' :: name.toList, by simp [qualified, hcons], hfirst⟩

include hq hname in
/-- Of a name that does not go on the prefix is removed. -/
theorem removePrefixes_qualified {rest : List Char}
    (hrest : ∀ c ∈ rest.head?, isNameChar c = false ∧ c ≠ ':') :
    removePrefixes ((prefixLength? ((qualified q name).toList ++ rest)).getD 0)
        ((qualified q name).toList ++ rest) = name.toList ++ removePrefixes 0 rest := by
  have hchars {s : String} (hs : isPlainName s = true) : ∀ c ∈ s.toList, isNameChar c = true :=
    fun c hc => (isPlainChar_spec ((isPlainName_iff.mp hs).2 c hc)).2.1
  have hplain := removePrefixes_append (bracket_not_mem_name hname) rest
  cases q with
  | none =>
      have htake : (name.toList ++ rest).takeWhile isNameChar = name.toList :=
        takeWhile_append_of_head? (hchars hname) fun c hc => (hrest c hc).1
      have hnone : prefixLength? (name.toList ++ rest) = none := by
        rw [prefixLength?, htake, List.drop_left, if_neg]
        rw [Bool.and_eq_true, beq_iff_eq]
        rintro ⟨-, hhead⟩
        exact (hrest ':' hhead).2 rfl
      rw [qualified, hnone]
      exact hplain
  | some p =>
      have hwritten : (qualified (some p) name).toList ++ rest =
          p.toList ++ ':' :: (name.toList ++ rest) := by
        simp [qualified]
      have hcolon : ∀ c ∈ (':' :: (name.toList ++ rest)).head?, isNameChar c = false := by
        intro c hc
        obtain rfl : ':' = c := by simpa using hc
        decide
      have hlength : prefixLength? (p.toList ++ ':' :: (name.toList ++ rest)) =
          some (p.toList ++ [':']).length := by
        obtain ⟨⟨c, cs, hcons, -⟩, -⟩ := isPlainName_iff.mp (hq p rfl)
        rw [prefixLength?, takeWhile_append_of_head? (hchars (hq p rfl)) hcolon, List.drop_left,
          if_pos (by simp [hcons]), List.length_append]
        rfl
      have hskip := removePrefixes_length (p.toList ++ [':']) (name.toList ++ rest)
      rw [List.append_assoc] at hskip
      rw [hwritten, hlength, Option.getD_some]
      exact hskip.trans hplain

include hq hname in
/-- Of a name at the end of a tag the prefix is removed. -/
theorem removePrefixes_tagEnd (rest : List Char) :
    removePrefixes ((prefixLength? ((qualified q name).toList ++ '>' :: rest)).getD 0)
        ((qualified q name).toList ++ '>' :: rest) =
      name.toList ++ '>' :: removePrefixes 0 rest := by
  have hend : ∀ d ∈ ('>' :: rest).head?, isNameChar d = false ∧ d ≠ ':' := by
    intro d hd
    obtain rfl : '>' = d := by simpa using hd
    decide
  rw [removePrefixes_qualified hq hname hend]
  exact congrArg (name.toList ++ ·) (removePrefixes_append (by decide : '<' ∉ ['>']) rest)

theorem bracket_not_mem_attributes {attributes : List (String × String)}
    (h : ∀ a ∈ attributes, isName a.1 = true) : '<' ∉ attributes.flatMap writtenAttribute := by
  intro hmem
  obtain ⟨a, ha, hmem⟩ := List.mem_flatMap.mp hmem
  have hbracket := bracket_not_mem_escape a.2.toList
  have hattribute : '<' ∈ a.1.toList := by simpa [writtenAttribute, hbracket] using hmem
  exact absurd (isNameChar_of_isName (h a ha) _ hattribute) (by decide)

include hq hname in
theorem removePrefixes_openingTag {attributes : List (String × String)}
    (hattributes : ∀ a ∈ attributes, isName a.1 = true) (rest : List Char) :
    removePrefixes 0 (openingTag (qualified q name) attributes ++ rest) =
      openingTag name attributes ++ removePrefixes 0 rest := by
  obtain ⟨c, cs, hcons, hfirst⟩ := exists_qualified hq hname
  have hslash : c ≠ '/' := by
    rintro rfl
    exact absurd hfirst (by decide)
  let back := attributes.flatMap writtenAttribute ++ ['>']
  have hwritten (s : String) (rest : List Char) :
      openingTag s attributes ++ rest = '<' :: (s.toList ++ (back ++ rest)) := by
    simp [openingTag, back]
  have hends : ∀ d ∈ (back ++ rest).head?, isNameChar d = false ∧ d ≠ ':' := by
    cases hcases : attributes with
    | nil =>
        have hend : isNameChar '>' = false := by decide
        simp [back, hcases, hend]
    | cons a more =>
        have hspace : isNameChar ' ' = false := by decide
        simp [back, hcases, writtenAttribute, hspace]
  have hback : '<' ∉ back := by
    have hattribute := bracket_not_mem_attributes hattributes
    simp [back, hattribute]
  have hend := removePrefixes_qualified hq hname hends
  rw [removePrefixes_append hback, hcons, List.cons_append] at hend
  rw [hwritten, hwritten, hcons, List.cons_append, removePrefixes, hend]
  rintro tail htail
  exact hslash (List.cons.inj htail).1

include hq hname in
theorem removePrefixes_closingTag (rest : List Char) :
    removePrefixes 0 (closingTag (qualified q name) ++ rest) =
      closingTag name ++ removePrefixes 0 rest := by
  have hwritten (s : String) (rest : List Char) :
      closingTag s ++ rest = '<' :: '/' :: (s.toList ++ '>' :: rest) := by
    simp [closingTag]
  rw [hwritten, hwritten, removePrefixes, removePrefixes_tagEnd hq hname]

/-- The prefixes of content are removed, and nothing else. -/
theorem removePrefixes_written {q : Option String} (hq : ∀ p ∈ q, isPlainName p = true)
    {c : Content} (hc : c.isPlain = true) (rest : List Char) :
    removePrefixes 0 ((c.qualify q).written ++ rest) = c.written ++ removePrefixes 0 rest := by
  induction c generalizing rest with
  | nil => rfl
  | text value more ih =>
      simp only [Content.qualify, Content.written, List.append_assoc]
      rw [removePrefixes_append (bracket_not_mem_escape _), ih hc]
  | element name attributes children more ihChildren ihMore =>
      simp only [Content.isPlain, Bool.and_eq_true, List.isEmpty_iff] at hc
      obtain ⟨⟨⟨hname, rfl⟩, hchildren⟩, hmore⟩ := hc
      simp only [Content.qualify, Content.written, List.append_assoc]
      rw [removePrefixes_openingTag hq hname (List.forall_mem_nil _), ihChildren hchildren,
        removePrefixes_closingTag hq hname, ihMore hmore]

end Tag

section Whole

variable {q : Option String} (hq : ∀ p ∈ q, isPlainName p = true)

include hq in
/-- A prefix adds a colon and more characters of plain names. -/
theorem of_mem_qualified {name : String} (hname : isPlainName name = true) {c : Char}
    (hc : c ∈ (qualified q name).toList) : c = ':' ∨ isPlainChar c = true := by
  have hchars := (isPlainName_iff.mp hname).2
  cases q with
  | none => exact .inr (hchars c hc)
  | some p =>
      have hmem : c ∈ p.toList ∨ c = ':' ∨ c ∈ name.toList := by
        simpa [qualified, or_assoc] using hc
      rcases hmem with hmem | rfl | hmem
      · exact .inr ((isPlainName_iff.mp (hq p rfl)).2 c hmem)
      · exact .inl rfl
      · exact .inr (hchars c hmem)

include hq in
theorem quote_not_mem_qualified {name : String} (hname : isPlainName name = true) :
    '"' ∉ (qualified q name).toList := by
  intro hmem
  rcases of_mem_qualified hq hname hmem with h | h
  · exact absurd h (by decide)
  · exact absurd h (by decide)

include hq in
/-- Content without attributes is written without quotation marks. -/
theorem quote_not_mem_written {c : Content} (hc : c.isPlain = true) :
    '"' ∉ (c.qualify q).written := by
  induction c with
  | nil => exact List.not_mem_nil
  | text value rest ih =>
      rw [Content.qualify, Content.written, List.mem_append, not_or]
      exact ⟨quote_not_mem_escape _, ih hc⟩
  | element name attributes children rest ihChildren ihRest =>
      simp only [Content.isPlain, Bool.and_eq_true, List.isEmpty_iff] at hc
      obtain ⟨⟨⟨hname, rfl⟩, hchildren⟩, hrest⟩ := hc
      have hquote := quote_not_mem_qualified hq hname
      simp [Content.qualify, Content.written, openingTag, closingTag, hquote,
        ihChildren hchildren, ihRest hrest]

end Whole

end MetadataHarvest.Protocol

namespace MetadataHarvest.Markup

open Protocol

/-- An element with a prefix at every name and a declaration at its root. -/
def Element.declaring (e : Element) (q declared : Option String) (uri : String) : Element :=
  ⟨qualified q e.name, [(declarationName declared, uri)], e.content.qualify q⟩

/-- The text of an element with namespaces is without them that of the plain element, whichever
prefix is used and declared and whatever its namespace is. -/
theorem Element.removeNamespaces_declaring {e : Element} (he : e.alone.isPlain = true)
    {q declared : Option String} (hq : ∀ p ∈ q, isPlainName p = true)
    (hdeclared : ∀ p ∈ declared, isPlainName p = true) (uri : String) :
    removeNamespaces (e.declaring q declared uri).written = e.written := by
  obtain ⟨name, attributes, content⟩ := e
  have hparts := he
  simp only [alone, Content.isPlain, Bool.and_eq_true, List.isEmpty_iff] at hparts
  obtain ⟨⟨⟨hname, rfl⟩, -⟩, -⟩ := hparts
  let front := '<' :: (qualified q name).toList
  let tail := '>' :: ((content.qualify q).written ++ closingTag (qualified q name))
  have hdeclaring : (declaring ⟨name, [], content⟩ q declared uri).written =
      front ++ (writtenAttribute (declarationName declared, uri) ++ tail) := by
    simp [declaring, written, openingTag, front, tail]
  have hqualified : ((alone ⟨name, [], content⟩).qualify q).written = front ++ tail := by
    simp [alone, Content.qualify, Content.written, openingTag, front, tail]
  have hfront : ∀ c ∈ front, Text.isBlank c = false := by
    rw [List.forall_mem_cons]
    refine ⟨by decide, fun c hc => ?_⟩
    rcases of_mem_qualified hq hname hc with rfl | hplain
    · decide
    · exact (isPlainChar_spec hplain).1
  have htail : '"' ∉ tail := by
    have hquote := quote_not_mem_written hq he
    rw [hqualified, List.mem_append, not_or] at hquote
    exact hquote.2
  have hremoved := removePrefixes_written hq he []
  rw [List.append_nil, hqualified] at hremoved
  rw [removeNamespaces, hdeclaring, removeDeclarations_append hfront,
    removeDeclarations_declaration hdeclared, removeDeclarations_of_not_mem htail, hremoved,
    written_alone, removePrefixes, List.append_nil]

end MetadataHarvest.Markup
