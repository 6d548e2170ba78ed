import MetadataHarvest.Markup.Attribute
import MetadataHarvest.Markup.Layout
import MetadataHarvest.Proofs.Markup.Escape

/-!
# Written tags are read as one token each

A tag as it is written is one token, whatever follows it: no character of a name ends a tag or
a name, and what stands in an attribute's value is between quotation marks. The attributes of
the token are those that were written.
-/

namespace MetadataHarvest.Markup

open MetadataHarvest.Text

section Name

variable {name : String}

theorem isNameChar_of_isName (h : isName name = true) :
    ∀ c ∈ name.toList, isNameChar c = true := by
  unfold isName at h
  split at h
  · cases h
  · next first rest hname =>
      rw [Bool.and_eq_true, List.all_eq_true] at h
      rw [hname, List.forall_mem_cons]
      exact ⟨isNameChar_of_isNameStart h.1, h.2⟩

/-- A name begins with a letter or an underscore. -/
theorem exists_of_isName (h : isName name = true) :
    ∃ c cs, name.toList = c :: cs ∧ isNameStart c = true := by
  unfold isName at h
  split at h
  · cases h
  · next first rest hname => exact ⟨first, rest, hname, (Bool.and_eq_true_iff.mp h).1⟩

/-- The characters of names are different from all others. -/
theorem ne_of_isNameChar {c d : Char} (h : isNameChar c = true) (hd : isNameChar d = false) :
    c ≠ d := by
  rintro rfl
  rw [h] at hd
  cases hd

theorem isSpace_of_isNameChar {c : Char} (h : isNameChar c = true) : isSpace c = false := by
  rw [Bool.eq_false_iff]
  intro hspace
  simp only [isSpace, Bool.or_eq_true, beq_iff_eq] at hspace
  rcases hspace with ((rfl | rfl) | rfl) | rfl <;> exact absurd h (by decide)

end Name

theorem isName_of_areAttributes {attributes : List (String × String)}
    (h : areAttributes attributes = true) : ∀ a ∈ attributes, isName a.1 = true := by
  rw [areAttributes, Bool.and_eq_true, List.all_eq_true] at h
  exact h.1

namespace RawAttribute

/-- A written attribute is read as it was written, and nothing after it is touched. -/
theorem next?_written {first : Char} {name value : List Char}
    (hname : ∀ c ∈ name, isNameChar c = true) (hvalue : '"' ∉ value) (rest : List Char) :
    next? first (name ++ '=' :: '"' :: (value ++ '"' :: rest)) =
      some (⟨String.ofList (first :: name), value⟩, rest) := by
  have hin : ∀ c ∈ name, (decide (c ≠ '=') && !isSpace c) = true := by
    intro c hc
    rw [isSpace_of_isNameChar (hname c hc)]
    simpa using ne_of_isNameChar (hname c hc) (by decide : isNameChar '=' = false)
  have hquoted : quoted? ('"' :: (value ++ '"' :: rest)) = some (value, rest) :=
    breakOn?_append hvalue rest
  simp only [next?, List.dropWhile_append_of_pos hin, List.takeWhile_append_of_pos hin]
  simp [isSpace, hquoted]

theorem sequence?_nil : sequence? [] = some [] := by
  rw [sequence?]
  rfl

theorem sequence?_of_next? {cs rest after : List Char} {first : Char} {a : RawAttribute}
    (hcs : cs.dropWhile isSpace = first :: rest) (hnext : next? first rest = some (a, after)) :
    sequence? cs = (sequence? after).map (a :: ·) := by
  rw [sequence?]
  split
  · next hnil =>
      rw [hcs] at hnil
      cases hnil
  · next c cs' hcons =>
      obtain ⟨rfl, rfl⟩ := List.cons.inj (hcs.symm.trans hcons)
      split
      · next hnone =>
          rw [hnext] at hnone
          cases hnone
      · next a' after' hsome =>
          obtain ⟨rfl, rfl⟩ := Prod.mk.inj (Option.some.inj (hnext.symm.trans hsome))
          rfl

/-- The attributes of a tag are read one after the other. -/
theorem sequence?_written {attributes : List (String × String)}
    (h : ∀ a ∈ attributes, isName a.1 = true) :
    sequence? (attributes.flatMap writtenAttribute) =
      some (attributes.map fun a => ⟨a.1, escape a.2.toList⟩) := by
  induction attributes with
  | nil => exact sequence?_nil
  | cons a attributes ih =>
      rw [List.forall_mem_cons] at h
      obtain ⟨first, name, hfirst, -⟩ := exists_of_isName h.1
      have hchars := isNameChar_of_isName h.1
      rw [hfirst, List.forall_mem_cons] at hchars
      have hcs : ((a :: attributes).flatMap writtenAttribute).dropWhile isSpace =
          first :: (name ++ '=' :: '"' ::
            (escape a.2.toList ++ '"' :: attributes.flatMap writtenAttribute)) := by
        have hspace : isSpace ' ' = true := rfl
        simp [writtenAttribute, hfirst, hspace, isSpace_of_isNameChar hchars.1]
      rw [sequence?_of_next? hcs (next?_written hchars.2 (quote_not_mem_escape _) _), ih h.2,
        ← hfirst, String.ofList_toList]
      rfl

end RawAttribute

theorem rawAttributes?_written {attributes : List (String × String)}
    (h : areAttributes attributes = true) :
    rawAttributes? (attributes.flatMap writtenAttribute) =
      some (attributes.map fun a => ⟨a.1, escape a.2.toList⟩) := by
  rw [areAttributes, Bool.and_eq_true, List.all_eq_true, decide_eq_true_eq] at h
  rw [rawAttributes?, RawAttribute.sequence?_written h.1, Option.bind_some, if_pos]
  simpa [Function.comp_def] using h.2

/-- The attributes that a tag was written with are read from it. -/
theorem attributes?_written {attributes : List (String × String)}
    (h : areAttributes attributes = true) :
    attributes? (attributes.flatMap writtenAttribute) = some attributes := by
  rw [attributes?, rawAttributes?_written h, Option.bind_some]
  clear h
  induction attributes with
  | nil => rfl
  | cons a attributes ih => 
      rw [List.map_cons, List.mapM_cons]
      simp [unescape?_escape, ih]

namespace Token

/-- Outside quotation marks, characters that neither end a tag nor begin a quotation are part
of its body. -/
theorem tagBody?_append {front : List Char}
    (h : ∀ c ∈ front, c ≠ '>' ∧ c ≠ '"' ∧ c ≠ '\'') (rest : List Char) :
    tagBody? none (front ++ rest) =
      (tagBody? none rest).map fun parts => (front ++ parts.1, parts.2) := by
  induction front with
  | nil => simp
  | cons c front ih =>
      rw [List.forall_mem_cons] at h
      obtain ⟨⟨hclose, hdouble, hsingle⟩, hfront⟩ := h
      simp [tagBody?, hclose, hdouble, hsingle, ih hfront, Function.comp_def]

/-- A quotation goes on to its closing mark. -/
theorem tagBody?_quotation {front : List Char} (h : '"' ∉ front) (rest : List Char) :
    tagBody? (some '"') (front ++ '"' :: rest) =
      (tagBody? none rest).map fun parts => (front ++ '"' :: parts.1, parts.2) := by
  induction front with
  | nil => simp [tagBody?]
  | cons c front ih =>
      rw [List.mem_cons, not_or] at h
      simp [tagBody?, Ne.symm h.1, ih h.2, Function.comp_def]

theorem tagBody?_name {name : String} (h : isName name = true) (rest : List Char) :
    tagBody? none (name.toList ++ rest) =
      (tagBody? none rest).map fun parts => (name.toList ++ parts.1, parts.2) := by
  apply tagBody?_append
  intro c hc
  have hchar := isNameChar_of_isName h c hc
  exact ⟨ne_of_isNameChar hchar (by decide), ne_of_isNameChar hchar (by decide),
    ne_of_isNameChar hchar (by decide)⟩

/-- Attributes are part of the body of a tag, whatever their values. -/
theorem tagBody?_attributes {attributes : List (String × String)}
    (h : ∀ a ∈ attributes, isName a.1 = true) (rest : List Char) :
    tagBody? none (attributes.flatMap writtenAttribute ++ rest) =
      (tagBody? none rest).map fun parts =>
        (attributes.flatMap writtenAttribute ++ parts.1, parts.2) := by
  induction attributes with
  | nil => simp
  | cons a attributes ih =>
      rw [List.forall_mem_cons] at h
      have hquotation := tagBody?_quotation (quote_not_mem_escape a.2.toList)
        (attributes.flatMap writtenAttribute ++ rest)
      rw [ih h.2] at hquotation
      have hname := tagBody?_name h.1 ('=' :: '"' :: (escape a.2.toList ++
        '"' :: (attributes.flatMap writtenAttribute ++ rest)))
      simp [writtenAttribute, tagBody?, hname, hquotation, Function.comp_def]

section Tag

variable {name : String} {attributes : List (String × String)}

/-- A body ends where the tag is closed. -/
theorem tagBody?_written (hname : isName name = true)
    (hattributes : ∀ a ∈ attributes, isName a.1 = true) (body rest : List Char)
    (hbody : tagBody? none (body ++ '>' :: rest) = some (body, rest)) :
    tagBody? none (name.toList ++ attributes.flatMap writtenAttribute ++ body ++ '>' :: rest) =
      some (name.toList ++ attributes.flatMap writtenAttribute ++ body, rest) := by
  simp only [List.append_assoc]
  rw [tagBody?_name hname, tagBody?_attributes hattributes, hbody]
  rfl

theorem takeWhile_name (hname : isName name = true) {rest : List Char}
    (hrest : ∀ c ∈ rest.head?, isSpace c = true) :
    (name.toList ++ rest).takeWhile (!isSpace ·) = name.toList ∧
      (name.toList ++ rest).dropWhile (!isSpace ·) = rest := by
  have hplain : ∀ c ∈ name.toList, (!isSpace c) = true := by
    intro c hc
    rw [isSpace_of_isNameChar (isNameChar_of_isName hname c hc)]
    rfl
  have hrest' : ∀ c ∈ rest.head?, (!isSpace c) = false := by simpa using hrest
  exact ⟨takeWhile_append_of_head? hplain hrest', dropWhile_append_of_head? hplain hrest'⟩

theorem head?_attributes (attributes : List (String × String)) :
    ∀ c ∈ (attributes.flatMap writtenAttribute).head?, isSpace c = true := by
  cases attributes with
  | nil => simp
  | cons a attributes =>
      intro c hc
      obtain rfl : ' ' = c := by simpa [writtenAttribute] using hc
      rfl

theorem getLast?_writtenAttribute (a : String × String) :
    (writtenAttribute a).getLast? = some '"' := List.getLast?_concat

/-- The name and attributes of a tag do not end in a slash. -/
theorem getLast?_body (hname : isName name = true) :
    (name.toList ++ attributes.flatMap writtenAttribute).getLast? ≠ some '/' := by
  rw [List.getLast?_append]
  rcases List.eq_nil_or_concat attributes with rfl | ⟨attributes, a, rfl⟩
  · intro hlast
    have hmem := List.mem_of_getLast? (by simpa using hlast)
    exact absurd (isNameChar_of_isName hname _ hmem) (by decide)
  · simp [getLast?_writtenAttribute]

theorem ofTagBody_written (hname : isName name = true) :
    ofTagBody (name.toList ++ attributes.flatMap writtenAttribute) =
      .opening name (attributes.flatMap writtenAttribute) false := by
  have hlast : ((name.toList ++ attributes.flatMap writtenAttribute).getLast? == some '/') =
      false := beq_eq_false_iff_ne.mpr (getLast?_body hname)
  obtain ⟨htake, hdrop⟩ := takeWhile_name hname (head?_attributes attributes)
  simp only [ofTagBody, hlast, Bool.false_eq_true, if_false, htake, hdrop,
    String.ofList_toList]

theorem ofTagBody_selfClosing (hname : isName name = true) :
    ofTagBody (name.toList ++ attributes.flatMap writtenAttribute ++ ['/']) =
      .opening name (attributes.flatMap writtenAttribute) true := by
  obtain ⟨htake, hdrop⟩ := takeWhile_name hname (head?_attributes attributes)
  simp only [ofTagBody, List.getLast?_concat, beq_self_eq_true, if_true, List.dropLast_concat,
    htake, hdrop, String.ofList_toList]

/-- What begins with none of the three marks is the body of a tag. -/
theorem markup?_cons {c : Char} (hbang : c ≠ '!') (hquestion : c ≠ '?') (hslash : c ≠ '/')
    (cs : List Char) :
    markup? (c :: cs) = some (match tagBody? none (c :: cs) with
      | some (body, rest) => (ofTagBody body, rest)
      | none => (.malformed, [])) := by
  unfold markup?
  split
  · next heq => cases heq
  · next heq => exact absurd (List.cons.inj heq).1 hbang
  · next heq => exact absurd (List.cons.inj heq).1 hquestion
  · next heq => exact absurd (List.cons.inj heq).1 hslash
  · rfl

theorem markup?_of_isNameStart {c : Char} (h : isNameStart c = true) (cs : List Char) :
    markup? (c :: cs) = some (match tagBody? none (c :: cs) with
      | some (body, rest) => (ofTagBody body, rest)
      | none => (.malformed, [])) := by
  have hchar := isNameChar_of_isNameStart h
  exact markup?_cons (ne_of_isNameChar hchar (by decide)) (ne_of_isNameChar hchar (by decide))
    (ne_of_isNameChar hchar (by decide)) cs

theorem markup?_name (hname : isName name = true) {body rest tail : List Char}
    (hbody : tagBody? none (name.toList ++ tail) = some (body, rest)) :
    markup? (name.toList ++ tail) = some (ofTagBody body, rest) := by
  obtain ⟨c, cs, hcs, hstart⟩ := exists_of_isName hname
  rw [hcs, List.cons_append] at hbody ⊢
  rw [markup?_of_isNameStart hstart, hbody]

/-- An opening tag is one token. -/
theorem next?_openingTag (hname : isName name = true)
    (hattributes : ∀ a ∈ attributes, isName a.1 = true) (rest : List Char) :
    next? (openingTag name attributes ++ rest) =
      some (.opening name (attributes.flatMap writtenAttribute) false, rest) := by
  have hbody := tagBody?_written hname hattributes [] rest (by simp [tagBody?])
  simp only [List.append_nil, List.append_assoc] at hbody
  have hmarkup := markup?_name hname hbody
  rw [ofTagBody_written hname] at hmarkup
  simpa [openingTag, next?] using hmarkup

/-- A tag that closes itself is one token. -/
theorem next?_selfClosingTag (hname : isName name = true)
    (hattributes : ∀ a ∈ attributes, isName a.1 = true) (rest : List Char) :
    next? (selfClosingTag name attributes ++ rest) =
      some (.opening name (attributes.flatMap writtenAttribute) true, rest) := by
  have hbody := tagBody?_written hname hattributes ['/'] rest (by simp [tagBody?])
  rw [List.append_assoc, List.append_assoc] at hbody
  have hmarkup := markup?_name hname hbody
  rw [← List.append_assoc, ofTagBody_selfClosing hname] at hmarkup
  simpa [selfClosingTag, next?] using hmarkup

/-- The name in a closing tag has no white space to lose. -/
theorem ofClosingBody_of_isNameChar {body : List Char}
    (h : ∀ c ∈ body, isNameChar c = true) :
    ofClosingBody body = .closing (String.ofList body) := by
  have hkept : dropWhileEnd isSpace body = body := by
    have hdrop : body.reverse.dropWhile isSpace = body.reverse := by
      cases hreverse : body.reverse with
      | nil => rfl
      | cons c cs =>
          have hc : c ∈ body := List.mem_reverse.mp (hreverse ▸ List.mem_cons_self)
          simp [isSpace_of_isNameChar (h c hc)]
    rw [dropWhileEnd, hdrop, List.reverse_reverse]
  rw [ofClosingBody, hkept, ite_self]

/-- A closing tag is one token. -/
theorem next?_closingTag (hname : isName name = true) (rest : List Char) :
    next? (closingTag name ++ rest) = some (.closing name, rest) := by
  have hplain : ∀ c ∈ name.toList, decide (c ≠ '>') = true := by
    intro c hc
    exact decide_eq_true (ne_of_isNameChar (isNameChar_of_isName hname c hc) (by decide))
  have hrest : ∀ c ∈ ('>' :: rest).head?, decide (c ≠ '>') = false := by simp
  simp only [closingTag, List.cons_append, List.append_assoc, next?, markup?, List.nil_append]
  rw [takeWhile_append_of_head? hplain hrest, dropWhile_append_of_head? hplain hrest,
    ofClosingBody_of_isNameChar (isNameChar_of_isName hname), String.ofList_toList]
  rfl

end Tag

end Token

end MetadataHarvest.Markup
