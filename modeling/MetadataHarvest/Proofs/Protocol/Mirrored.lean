import MetadataHarvest.Proofs.Markup.Seams
import MetadataHarvest.Proofs.Markup.WithoutNotes
import MetadataHarvest.Proofs.Protocol.Fields
import MetadataHarvest.Proofs.Protocol.Freed

/-!
# One response read in two ways

A response is read as a tree and, without its namespaces, as parts. When removing the namespaces
has touched nothing but tags, the elements of the parts are those of the tree one for one, with
their names without prefixes, and the texts of the parts are the character data of the tree joined
between the tags.

## Implementation notes

The tokens of both texts are compared one by one, and the stack machine for the parts is followed
along the grammar of the tree. A run of character data is carried along, since it goes on over
tokens that are no tags.
-/

namespace MetadataHarvest.Markup

open MetadataHarvest.Text Protocol

section Freed

variable {t : Token} {ts us inner : List Token} {name closing : String} {written : List Char}

theorem data?_of_isNote (h : t.isNote = true) : t.data? = some [] := by
  cases t with
  | comment _ | instruction _ => rfl
  | text _ | cdata _ | doctype _ | opening _ _ _ | closing _ | malformed => cases h

theorem isOutside_of_isNote (h : t.isNote = true) : t.isOutside = true := by
  cases t with
  | comment _ | instruction _ => rfl
  | text _ | cdata _ | doctype _ | opening _ _ _ | closing _ | malformed => cases h

theorem isOutside_of_freed {ts' : List Token} (h : List.Forall₂ Token.Freed ts ts')
    (hts : ∀ t ∈ ts, t.isOutside = true) : ∀ t ∈ ts', t.isOutside = true := by
  induction h with
  | nil => exact hts
  | cons hfreed _ ih =>
      rw [List.forall_mem_cons] at hts ⊢
      refine ⟨?_, ih hts.2⟩
      cases hfreed with
      | text _ | cdata _ | doctype _ _ => rfl
      | note _ hnote' => exact isOutside_of_isNote hnote'
      | opening _ _ | closing _ => cases hts.1

theorem exists_of_freed_append {ws : List Token} (h : List.Forall₂ Token.Freed (ts ++ us) ws) :
    ∃ ts' us', ws = ts' ++ us' ∧ List.Forall₂ Token.Freed ts ts' ∧
      List.Forall₂ Token.Freed us us' := by
  induction ts generalizing ws with
  | nil => exact ⟨[], ws, rfl, .nil, h⟩
  | cons t ts ih =>
      cases h with
      | cons ht h =>
          obtain ⟨ts', us', rfl, hts, hus⟩ := ih h
          exact ⟨_ :: ts', us', rfl, .cons ht hts, hus⟩

theorem exists_of_freed_text {raw : List Char} {ws : List Token}
    (h : List.Forall₂ Token.Freed (.text raw :: ts) ws) :
    ∃ us, ws = .text raw :: us ∧ List.Forall₂ Token.Freed ts us := by
  cases h with
  | cons hfreed h =>
      cases hfreed with
      | note hnote _ => cases hnote
      | text _ => exact ⟨_, rfl, h⟩

theorem exists_of_freed_cdata {content : List Char} {ws : List Token}
    (h : List.Forall₂ Token.Freed (.cdata content :: ts) ws) :
    ∃ us, ws = .cdata content :: us ∧ List.Forall₂ Token.Freed ts us := by
  cases h with
  | cons hfreed h =>
      cases hfreed with
      | note hnote _ => cases hnote
      | cdata _ => exact ⟨_, rfl, h⟩

theorem exists_of_freed_opening {closed : Bool} {ws : List Token}
    (h : List.Forall₂ Token.Freed (.opening name written closed :: ts) ws) :
    ∃ name' written' us, ws = .opening name' written' closed :: us ∧ IsUnprefixed name name' ∧
      IsUndeclared written written' ∧ List.Forall₂ Token.Freed ts us := by
  cases h with
  | cons hfreed h =>
      cases hfreed with
      | note hnote _ => cases hnote
      | opening hname hundeclared => exact ⟨_, _, _, rfl, hname, hundeclared, h⟩

/-- The tags of an element and what is between them, without namespaces. -/
theorem exists_of_freed_tagged {ws : List Token}
    (h : List.Forall₂ Token.Freed
      (.opening name written false :: (inner ++ .closing closing :: ts)) ws) :
    ∃ name' written' inner' closing' us,
      ws = .opening name' written' false :: (inner' ++ .closing closing' :: us) ∧
        IsUnprefixed name name' ∧ IsUndeclared written written' ∧
        List.Forall₂ Token.Freed inner inner' ∧ List.Forall₂ Token.Freed ts us := by
  obtain ⟨name', written', us, rfl, hname, hundeclared, h⟩ := exists_of_freed_opening h
  obtain ⟨inner', back, rfl, hinner, hback⟩ := exists_of_freed_append h
  cases hback with
  | cons hclosing hts =>
      cases hclosing with
      | note hnote _ => cases hnote
      | closing _ => exact ⟨name', written', inner', _, _, rfl, hname, hundeclared, hinner, hts⟩

end Freed

end MetadataHarvest.Markup

namespace MetadataHarvest.Protocol

open Markup Text

/-- These texts as parts. -/
def partsOfTexts (texts : List (List Char)) : List Part :=
  texts.map fun text => .text (some (String.ofList text))

variable {texts : List (List Char)} {parts : List Part}

@[simp] theorem textsOf_partsOfTexts (texts : List (List Char)) :
    textsOf (partsOfTexts texts) = texts.map fun text => some (String.ofList text) := by
  simp [textsOf, partsOfTexts, List.filterMap_map]

@[simp] theorem elementsOf_partsOfTexts (texts : List (List Char)) :
    elementsOf (partsOfTexts texts) = [] := by
  simp [elementsOf, partsOfTexts]

section Runs

variable {run : Run} {d value : List Char}

/-- The characters of a run; white space alone has no words, whether it is shown or not. -/
structure Run.Holds (run : Run) (d : List Char) : Prop where
  value : (run.parts.reverse.mapM id).map List.flatten = some d
  hidden : run.shown = false → words d = []

theorem Run.holds_empty : Run.empty.Holds [] := ⟨rfl, fun _ => rfl⟩

theorem Run.Holds.push (h : run.Holds d) {shown : Bool}
    (hshown : shown = false → words (d ++ value) = []) :
    Run.Holds ⟨some value :: run.parts, shown⟩ (d ++ value) where
  value := by
    obtain ⟨pieces, hpieces, rfl⟩ := Option.map_eq_some_iff.mp h.value
    rw [List.reverse_cons, List.mapM_append, hpieces]
    simp
  hidden := hshown

/-- Character data goes on a run. -/
theorem Run.Holds.text (h : run.Holds d) {raw : List Char} (hraw : unescape? raw = some value) :
    Run.Holds ⟨some value :: run.parts, run.shown || !raw.all isSpace⟩ (d ++ value) := by
  apply h.push
  intro hhidden
  rw [Bool.or_eq_false_iff, Bool.not_eq_false', List.all_eq_true] at hhidden
  obtain rfl := Option.some.inj ((unescape?_white hhidden.2).symm.trans hraw)
  rw [words_append_of_blank fun c hc => isBlank_of_isSpace (hhidden.2 c hc), h.hidden hhidden.1]

/-- A run that is over is one text, or none when it has no words. -/
theorem Run.Holds.exists_close (h : run.Holds d) :
    ∃ texts : List (List Char), texts.flatMap words = words d ∧
      run.close = texts.map fun text => .text (some (String.ofList text)) := by
  obtain ⟨pieces, hpieces, rfl⟩ := Option.map_eq_some_iff.mp h.value
  cases hshown : run.shown with
  | true => exact ⟨[pieces.flatten], by simp, by simp [Run.close, hshown, hpieces]⟩
  | false => exact ⟨[], by simp [h.hidden hshown], by simp [Run.close, hshown]⟩

/-- Texts are parts of the innermost open element. -/
theorem rootFrom?_texts (texts : List (List Char)) (o : OpenPart) (outer : List OpenPart)
    (events : List Event) :
    rootFrom? (o :: outer)
        ((texts.map fun text => Event.text (some (String.ofList text))) ++ events) =
      rootFrom? ({ o with parts := (partsOfTexts texts).reverse ++ o.parts } :: outer) events := by
  induction texts generalizing o with
  | nil => rfl
  | cons text texts ih =>
      rw [List.map_cons, List.cons_append, rootFrom?, ih]
      simp [partsOfTexts]

end Runs

/-- Parts have the elements of content, and the character data on its top level joined between
tags. -/
structure Mirrors (d : List Char) (ts : List Token) (c : Content) (parts : List Part) : Prop where
  names : List.Forall₂ (fun e p => IsUnprefixed e.name p.1) c.elements (elementsOf parts)
  texts : ∃ texts : List (List Char), Joined d ts c texts ∧
    textsOf parts = texts.map fun text => some (String.ofList text)

/-- A part is an element of the tree with its attributes and its content. -/
structure MirrorsElement (ts : List Token) (e : Element) (name : String) (i : Interior) :
    Prop where
  name : IsUnprefixed e.name name
  attributes : ∃ written, attributes? written = some e.attributes ∧
    IsUndeclared written i.attributes
  texts : ∃ texts : List (List Char),
    (textsOf i.parts = texts.map fun text => some (String.ofList text)) ∧
      (texts.flatMap words).flatten = e.content.ownWords.flatten ∧
      (texts.flatMap words = e.content.words ↔
        (∀ d ∈ e.children, d.content.words = []) ∧ ¬CutsWord ts)

section Reading

variable {c c₀ children : Content} {t : Token} {ts ts' inner inner' rest : List Token} {run : Run}
  {d value written written' : List Char} {name name' closing : String} {o : OpenPart}
  {outer : List OpenPart} {p : Part} {attributes : List (String × String)}

theorem Mirrors.data (hdata : t.data? = some value) (h : Mirrors (d ++ value) ts c₀ parts)
    (hwords : c.words = words value ++ c₀.words) (hown : c.ownWords = words value ++ c₀.ownWords)
    (helements : c.elements = c₀.elements) : Mirrors d (t :: ts) c parts where
  names := helements ▸ h.names
  texts := by
    obtain ⟨texts, hjoined, htexts⟩ := h.texts
    exact ⟨texts, hjoined.data hdata hwords hown, htexts⟩

/-- An element is one more part after the texts before it. -/
theorem Mirrors.element (htexts : texts.flatMap words = words d)
    (hname : IsUnprefixed name name') (hchildren : children.Spelled inner)
    (hcuts : CutsWord ts ↔ CutsWord inner ∨ CutsWord rest) (hts : dataBefore ts = [])
    {i : Interior} (h : Mirrors [] rest c parts) :
    Mirrors d ts (.element name attributes children c)
      (partsOfTexts texts ++ .element name' i.attributes i.parts :: parts) where
  names := by
    rw [elementsOf_append, elementsOf_partsOfTexts, List.nil_append, elementsOf_element]
    exact .cons hname h.names
  texts := by
    obtain ⟨more, hjoined, hmore⟩ := h.texts
    refine ⟨texts ++ more, ?_, by simp [hmore]⟩
    have hclosed : Joined d (.closing name :: rest) c (texts ++ more) :=
      hjoined.close rfl htexts
    have hafter : CutsWordAfter d (.closing name :: rest) ↔ CutsWord rest := by
      rw [CutsWordAfter, cutsWord_tag_iff rfl, dataBefore_tag rfl]
      simp [not_beginsWithWord_nil]
    have hall : CutsWordAfter d ts ↔ CutsWord inner ∨ CutsWord rest := by
      rw [CutsWordAfter, hts, hcuts]
      simp [not_beginsWithWord_nil]
    refine hclosed.element hchildren ?_ ?_
    · rw [hafter, hall]
      exact id
    · rw [hafter, hall]
      exact .inr

theorem eventsFrom_note (h : t.isNote = true) (run : Run) (ts : List Token) :
    eventsFrom run (t :: ts) = eventsFrom run ts := by
  cases t with
  | comment _ | instruction _ => rfl
  | text _ | cdata _ | doctype _ | opening _ _ _ | closing _ | malformed => cases h

/-- A closing tag makes a whole of the innermost open element and its parts. -/
theorem rootFrom?_closing {e : OpenPart} {events : List Event}
    (hread : rootFrom? (e :: o :: outer) (.closing closing :: events) = some p) :
    rootFrom? ({ o with parts := .element e.name e.attributes e.parts.reverse :: o.parts } :: outer)
      events = some p := by
  rw [rootFrom?] at hread
  split at hread
  · exact hread
  · cases hread

/-- An element without content is a part of the innermost open element, after the run before it. -/
theorem rootFrom?_childless (hrun : run.Holds d)
    (hread : rootFrom? (o :: outer) (eventsFrom run (.opening name written true :: rest)) =
      some p) :
    ∃ texts : List (List Char), texts.flatMap words = words d ∧
      rootFrom? ({ o with parts := .element name written [] ::
        ((partsOfTexts texts).reverse ++ o.parts) } :: outer) (eventsFrom .empty rest) =
          some p := by
  obtain ⟨texts, htexts, hclose⟩ := hrun.exists_close
  rw [eventsFrom, hclose, List.append_assoc, rootFrom?_texts, if_pos rfl, List.cons_append,
    rootFrom?] at hread
  exact ⟨texts, htexts, rootFrom?_closing hread⟩

/-- An element is a part of the innermost open element when what is between its tags is. -/
theorem rootFrom?_tagged (hrun : run.Holds d)
    (hinner : ∀ (o : OpenPart) (outer : List OpenPart) (rest : List Token), TagFirst rest →
      rootFrom? (o :: outer) (eventsFrom .empty (inner ++ rest)) = some p →
      ∃ parts, Mirrors [] ts children parts ∧
        rootFrom? ({ o with parts := parts.reverse ++ o.parts } :: outer) (eventsFrom .empty rest) =
          some p)
    (hread : rootFrom? (o :: outer) (eventsFrom run
      (.opening name written false :: (inner ++ .closing closing :: rest))) = some p) :
    ∃ (parts : List Part) (texts : List (List Char)), Mirrors [] ts children parts ∧
      texts.flatMap words = words d ∧
      rootFrom? ({ o with parts := .element name written parts ::
        ((partsOfTexts texts).reverse ++ o.parts) } :: outer) (eventsFrom .empty rest) =
          some p := by
  obtain ⟨texts, htexts, hclose⟩ := hrun.exists_close
  rw [eventsFrom, hclose, List.append_assoc, rootFrom?_texts, if_neg (by simp),
    List.singleton_append, rootFrom?] at hread
  obtain ⟨parts, hmirrors, hread⟩ := hinner _ _ (.closing closing :: rest) trivial hread
  rw [eventsFrom] at hread
  refine ⟨parts, texts, hmirrors, htexts, ?_⟩
  have hclosed := rootFrom?_closing hread
  simpa using hclosed

/-- The parts that are read of content. -/
theorem exists_mirrors (h : c.Spelled ts) {ts' : List Token}
    (hfreed : List.Forall₂ Token.Freed ts ts') {run : Run} {d : List Char} (hrun : run.Holds d)
    (o : OpenPart) (outer : List OpenPart) (rest : List Token) (hrest : TagFirst rest)
    (hread : rootFrom? (o :: outer) (eventsFrom run (ts' ++ rest)) = some p) :
    ∃ parts, Mirrors d ts c parts ∧
      rootFrom? ({ o with parts := parts.reverse ++ o.parts } :: outer) (eventsFrom .empty rest) =
        some p := by
  induction h generalizing ts' run d o outer rest with
  | nil =>
      cases hfreed
      obtain ⟨texts, htexts, hclose⟩ := hrun.exists_close
      rw [List.nil_append, eventsFrom_of_tagFirst hrest, hclose, rootFrom?_texts] at hread
      exact ⟨partsOfTexts texts, ⟨by simp [Content.elements], texts, .nil htexts, by simp⟩, hread⟩
  | skipped ht _ ih =>
      cases hfreed with
      | cons hfreed hmore =>
          cases hfreed with
          | text _ | cdata _ | opening _ _ | closing _ => cases ht
          | doctype _ _ =>
              obtain ⟨texts, htexts, hclose⟩ := hrun.exists_close
              rw [List.cons_append, eventsFrom, hclose, rootFrom?_texts] at hread
              obtain ⟨parts, hmirrors, hread⟩ := ih hmore Run.holds_empty _ _ _ hrest hread
              obtain ⟨more, hjoined, hmore⟩ := hmirrors.texts
              refine ⟨partsOfTexts texts ++ parts, ⟨by simpa using hmirrors.names, texts ++ more,
                hjoined.close rfl htexts, by simp [hmore]⟩, ?_⟩
              simpa using hread
          | note hnote hnote' =>
              rw [List.cons_append, eventsFrom_note hnote'] at hread
              rw [← List.append_nil d] at hrun
              obtain ⟨parts, hmirrors, hread⟩ := ih hmore hrun _ _ _ hrest hread
              exact ⟨parts, hmirrors.data (data?_of_isNote hnote) rfl rfl rfl, hread⟩
  | white hraw _ ih =>
      obtain ⟨us, rfl, hmore⟩ := exists_of_freed_text hfreed
      obtain ⟨value, hvalue, hwords⟩ := exists_unescape?_of_white hraw
      rw [List.cons_append, eventsFrom, hvalue] at hread
      obtain ⟨parts, hmirrors, hread⟩ := ih hmore (hrun.text hvalue) _ _ _ hrest hread
      exact ⟨parts, hmirrors.data hvalue (by rw [hwords, List.nil_append])
        (by rw [hwords, List.nil_append]) rfl, hread⟩
  | text hraw hcore _ ih =>
      obtain ⟨us, rfl, hmore⟩ := exists_of_freed_text hfreed
      obtain ⟨value, hvalue, hwords⟩ := exists_unescape? hcore
      rw [List.cons_append, eventsFrom, hvalue] at hread
      obtain ⟨parts, hmirrors, hread⟩ := ih hmore (hrun.text hvalue) _ _ _ hrest hread
      exact ⟨parts, hmirrors.data hvalue
        (by rw [Content.words_text, String.toList_ofList, hwords])
        (by rw [Content.ownWords, String.toList_ofList, hwords]) rfl, hread⟩
  | @cdata c content ts _ ih =>
      obtain ⟨us, rfl, hmore⟩ := exists_of_freed_cdata hfreed
      have hshown : true = false → words (d ++ content) = [] := fun h => by cases h
      rw [List.cons_append, eventsFrom] at hread
      obtain ⟨parts, hmirrors, hread⟩ := ih hmore (hrun.push hshown) _ _ _ hrest hread
      exact ⟨parts, hmirrors.data rfl
        (by rw [Content.words_text, String.toList_ofList])
        (by rw [Content.ownWords, String.toList_ofList]) rfl, hread⟩
  | childless hattributes _ ih =>
      obtain ⟨name', written', us, rfl, hname, -, hmore⟩ := exists_of_freed_opening hfreed
      obtain ⟨texts, htexts, hread⟩ := rootFrom?_childless hrun hread
      obtain ⟨parts, hmirrors, hread⟩ := ih hmore Run.holds_empty _ _ _ hrest hread
      refine ⟨_, hmirrors.element (i := ⟨written', []⟩) htexts hname .nil ?_ rfl,
        by simpa using hread⟩
      rw [cutsWord_tag_iff rfl]
      exact (or_iff_right not_cutsWord_nil).symm
  | element hattributes hchildren _ ihChildren ih =>
      obtain ⟨name', written', inner', closing, us, rfl, hname, -, hinner, hmore⟩ :=
        exists_of_freed_tagged hfreed
      rw [List.cons_append, List.append_assoc, List.cons_append] at hread
      obtain ⟨parts, texts, hmirrors, htexts, hread⟩ := rootFrom?_tagged hrun
        (fun o outer rest hrest hread =>
          ihChildren hinner Run.holds_empty o outer rest hrest hread) hread
      obtain ⟨more, hmirrors', hread⟩ := ih hmore Run.holds_empty _ _ _ hrest hread
      refine ⟨_, hmirrors'.element (i := ⟨written', parts⟩) htexts hname hchildren ?_ rfl,
        by simpa using hread⟩
      rw [cutsWord_tag_iff rfl, cutsWord_append_tag_iff rfl]

end Reading

section Element

variable {e : Element} {ts ts' inner rest : List Token} {run : Run} {d : List Char} {o : OpenPart}
  {outer : List OpenPart} {p : Part} {name : String} {i : Interior} {written : List Char}

theorem Mirrors.mirrorsElement (h : Mirrors [] inner e.content i.parts)
    (hname : IsUnprefixed e.name name) (hattributes : attributes? written = some e.attributes)
    (hundeclared : IsUndeclared written i.attributes) (hcuts : CutsWord ts ↔ CutsWord inner) :
    MirrorsElement ts e name i where
  name := hname
  attributes := ⟨written, hattributes, hundeclared⟩
  texts := by
    obtain ⟨texts, hjoined, htexts⟩ := h.texts
    refine ⟨texts, htexts, hjoined.letters, ?_⟩
    rw [hcuts]
    exact hjoined.words_eq_iff

/-- The part that is read of an element, after the run before it. -/
theorem exists_mirrorsElement (he : e.Spelled ts) (hfreed : List.Forall₂ Token.Freed ts ts')
    (hrun : run.Holds d) (hread : rootFrom? (o :: outer) (eventsFrom run (ts' ++ rest)) = some p) :
    ∃ (name : String) (i : Interior) (texts : List (List Char)), MirrorsElement ts e name i ∧
      rootFrom? ({ o with parts := .element name i.attributes i.parts ::
        ((partsOfTexts texts).reverse ++ o.parts) } :: outer) (eventsFrom .empty rest) =
          some p := by
  cases he with
  | childless hattributes =>
      obtain ⟨name', written', us, rfl, hname, hundeclared, hnil⟩ := exists_of_freed_opening hfreed
      cases hnil
      obtain ⟨texts, -, hread⟩ := rootFrom?_childless hrun hread
      have hmirrors : Mirrors [] [] .nil [] := ⟨.nil, [], .nil rfl, rfl⟩
      exact ⟨name', ⟨written', []⟩, texts, hmirrors.mirrorsElement hname hattributes hundeclared
        (cutsWord_tag_iff rfl), hread⟩
  | tagged hattributes hchildren =>
      obtain ⟨name', written', inner', closing, us, rfl, hname, hundeclared, hinner, hnil⟩ :=
        exists_of_freed_tagged hfreed
      cases hnil
      rw [List.cons_append, List.append_assoc, List.cons_append] at hread
      obtain ⟨parts, texts, hmirrors, -, hread⟩ := rootFrom?_tagged hrun
        (exists_mirrors hchildren hinner Run.holds_empty) hread
      refine ⟨name', ⟨written', parts⟩, texts,
        hmirrors.mirrorsElement hname hattributes hundeclared ?_, hread⟩
      rw [cutsWord_tag_iff rfl, cutsWord_append_tag_iff rfl]
      exact or_iff_left not_cutsWord_nil

theorem tagFirst_of_spelled (he : e.Spelled ts) (hfreed : List.Forall₂ Token.Freed ts ts')
    (rest : List Token) : TagFirst (ts' ++ rest) := by
  cases he with
  | childless _ | tagged _ _ =>
      obtain ⟨name', written', us, rfl, -⟩ := exists_of_freed_opening hfreed
      trivial

end Element

/-- Where `ts` are read, `e` is the first child of the root with its local name, and it is spelled
by `spelled`. -/
inductive MeetsFirst (e : Element) (spelled : List Token) : List Token → Prop
  | intro {lead before after : List Token} {root : String} {written : List Char} {c : Content}
      (hlead : ∀ t ∈ lead, t.isOutside = true) (hbefore : c.Spelled before)
      (hfirst : ∀ d ∈ c.elements, d.localName ≠ e.localName) (he : e.Spelled spelled) :
      MeetsFirst e spelled (lead ++ .opening root written false :: (before ++ (spelled ++ after)))

section Root

variable {s : String} {root : Element} {p : Part} {run : Run}

/-- Outside of the root there are no texts. -/
theorem rootFrom?_close {events : List Event}
    (h : rootFrom? [] (run.close ++ events) = some p) : rootFrom? [] events = some p := by
  rw [Run.close] at h
  split at h
  · cases h
  · exact h

theorem rootFrom?_lead {lead ts : List Token} (hlead : ∀ t ∈ lead, t.isOutside = true)
    (hts : TagFirst ts) (h : rootFrom? [] (eventsFrom run (lead ++ ts)) = some p) :
    rootFrom? [] (eventsFrom .empty ts) = some p := by
  induction lead generalizing run with
  | nil =>
      rw [List.nil_append, eventsFrom_of_tagFirst hts] at h
      exact rootFrom?_close h
  | cons t lead ih =>
      rw [List.forall_mem_cons] at hlead
      rw [List.cons_append] at h
      cases t with
      | text _ | cdata _ | comment _ | instruction _ =>
          rw [eventsFrom] at h
          exact ih hlead.2 h
      | doctype _ =>
          rw [eventsFrom] at h
          exact ih hlead.2 (rootFrom?_close h)
      | opening _ _ _ | closing _ | malformed => cases hlead.1

theorem rootFrom?_whole {o : OpenPart} {closing : String} {events : List Event}
    (h : rootFrom? [o] (.closing closing :: events) = some p) :
    p = .element o.name o.attributes o.parts.reverse := by
  rw [rootFrom?] at h
  split at h
  · exact (Option.some.inj h).symm
  · cases h

/-- Both readers come to the root, and the parts of it are what is left to be read. -/
theorem exists_openRoot (hparse : Element.parse s = .ok root) (hfreed : IsFreed s)
    (hroot : rootOf? s = some p) :
    (root.content = .nil ∧ ∃ name attributes, p = .element name attributes []) ∨
      ∃ (lead inner trail inner' trail' : List Token) (written : List Char) (closing : String)
        (o : OpenPart),
        documentTokens s.toList =
            lead ++ .opening root.name written false :: (inner ++ .closing root.name :: trail) ∧
          (∀ t ∈ lead, t.isOutside = true) ∧ root.content.Spelled inner ∧
          List.Forall₂ Token.Freed inner inner' ∧ o.parts = [] ∧
          rootFrom? [o] (eventsFrom .empty (inner' ++ .closing closing :: trail')) = some p := by
  obtain ⟨others, hrow⟩ := Element.exists_row_of_parse hparse
  obtain ⟨lead, spelled, trail, htokens, hlead, hspelled, -⟩ := hrow.exists_of_cons
  rw [IsFreed, htokens] at hfreed
  obtain ⟨lead', back', htokens', hlead', hback'⟩ := exists_of_freed_append hfreed
  obtain ⟨spelled', trail', rfl, hspelled', -⟩ := exists_of_freed_append hback'
  rw [rootOf?, htokens'] at hroot
  have hread := rootFrom?_lead (isOutside_of_freed hlead' hlead)
    (tagFirst_of_spelled hspelled hspelled' trail') hroot
  cases hspelled with
  | childless hattributes =>
      obtain ⟨name', written', us, rfl, -, -, hnil⟩ := exists_of_freed_opening hspelled'
      cases hnil
      change rootFrom? [⟨name', written', []⟩] (.closing name' :: eventsFrom .empty trail') =
        some p at hread
      exact .inl ⟨rfl, name', written', rootFrom?_whole hread⟩
  | tagged hattributes hchildren =>
      obtain ⟨name', written', inner', closing, us, rfl, -, -, hinner, hnil⟩ :=
        exists_of_freed_tagged hspelled'
      cases hnil
      rw [List.cons_append, List.append_assoc, eventsFrom, if_neg (by simp)] at hread
      exact .inr ⟨lead, _, trail, inner', trail', _, closing, ⟨name', written', []⟩,
        by simpa using htokens, hlead, hchildren, hinner, rfl, hread⟩

variable (hparse : Element.parse s = .ok root) (hfreed : IsFreed s) (hroot : rootOf? s = some p)

include hparse hfreed hroot

/-- The elements in the root are its children, without their prefixes. -/
theorem exists_elements :
    ∃ name attributes parts, p = .element name attributes parts ∧
      List.Forall₂ (fun e q => IsUnprefixed e.name q.1) root.children (elementsOf parts) := by
  obtain ⟨hnil, name, attributes, rfl⟩ |
    ⟨lead, inner, trail, inner', trail', written, closing, o, -, -, hchildren, hinner, ho, hread⟩ :=
      exists_openRoot hparse hfreed hroot
  · refine ⟨name, attributes, [], rfl, ?_⟩
    rw [Element.children, hnil]
    exact .nil
  · obtain ⟨parts, hmirrors, hread⟩ := exists_mirrors hchildren hinner Run.holds_empty _ _
      (.closing closing :: trail') trivial hread
    have hwhole := rootFrom?_whole hread
    rw [ho, List.append_nil, List.reverse_reverse] at hwhole
    exact ⟨o.name, o.attributes, parts, hwhole, hmirrors.names⟩

/-- A child of the root is one of the elements in it, and those before it are those before it. -/
theorem exists_child {e : Element} {front back : List Element}
    (hchildren : root.children = front ++ e :: back)
    (hfirst : ∀ d ∈ front, d.localName ≠ e.localName) :
    ∃ spelled, MeetsFirst e spelled (documentTokens s.toList) ∧
      ∃ name attributes before name' i after,
        p = .element name attributes (before ++ .element name' i.attributes i.parts :: after) ∧
          List.Forall₂ (fun e q => IsUnprefixed e.name q.1) front (elementsOf before) ∧
          MirrorsElement spelled e name' i := by
  obtain ⟨hnil, -⟩ |
    ⟨lead, inner, trail, inner', trail', written, closing, o, htokens, hlead, hcontent, hinner, ho,
      hread⟩ := exists_openRoot hparse hfreed hroot
  · rw [Element.children, hnil] at hchildren
    simp [Content.elements] at hchildren
  · obtain ⟨c₁, c₂, before, spelled, after, rfl, hbefore, rfl, he, hafter⟩ :=
      hcontent.exists_split hchildren
    obtain ⟨before', back', rfl, hbefore', hback'⟩ := exists_of_freed_append hinner
    obtain ⟨spelled', after', rfl, hspelled', hafter'⟩ := exists_of_freed_append hback'
    rw [List.append_assoc, List.append_assoc] at hread
    obtain ⟨partsBefore, hmirrors, hread⟩ := exists_mirrors hbefore hbefore' Run.holds_empty _ _ _
      (tagFirst_of_spelled he hspelled' _) hread
    obtain ⟨name', i, texts, helement, hread⟩ :=
      exists_mirrorsElement he hspelled' Run.holds_empty hread
    obtain ⟨partsAfter, -, hread⟩ := exists_mirrors hafter hafter' Run.holds_empty _ _
      (.closing closing :: trail') trivial hread
    have hwhole := rootFrom?_whole hread
    have hts : documentTokens s.toList = lead ++ .opening root.name written false ::
        (before ++ (spelled ++ (after ++ .closing root.name :: trail))) := by
      rw [htokens, List.append_assoc, List.append_assoc]
    rw [hts]
    refine ⟨spelled, .intro hlead hbefore hfirst he, o.name, o.attributes,
      partsBefore ++ partsOfTexts texts, name', i, partsAfter, ?_, by simpa using hmirrors.names,
      helement⟩
    rw [hwhole, ho]
    simp

end Root

end MetadataHarvest.Protocol
