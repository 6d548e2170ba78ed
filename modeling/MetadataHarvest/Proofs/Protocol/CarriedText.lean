import MetadataHarvest.Proofs.Markup.Pieces
import MetadataHarvest.Proofs.Protocol.Envelope
import MetadataHarvest.Proofs.Protocol.Lookalike

/-!
# A text that a response carries

A text may stand in a response as character data, with references for what would be markup, or
as a CDATA section. What of it looks like a namespace is removed with the namespaces, and what is
left of it arrives: in character data only declarations look like one, since tags need an angle
bracket, and in a section tags do too. The rest of the response has no part in this.
-/

namespace MetadataHarvest.Markup

/-- How a character is written in character data: as a reference when it would be markup. -/
def escapeMark (c : Char) : List Char := if c = '"' ∨ c = '\'' then [c] else escapeChar c

/-- Character data in which only what would be markup is escaped. -/
def escapeMarks (cs : List Char) : List Char := cs.flatMap escapeMark

@[simp] theorem escapeMarks_nil : escapeMarks [] = [] := rfl

@[simp] theorem escapeMarks_cons (c : Char) (cs : List Char) :
    escapeMarks (c :: cs) = escapeMark c ++ escapeMarks cs := rfl

/-- A character is one of three that are written as references, or it is written as it is. -/
theorem escapeMark_cases (c : Char) :
    (∃ name, escapeMark c = '&' :: (name ++ [';']) ∧ name.all Char.isAlpha = true ∧
      Reference.char? name = some c ∧ (c = '&' ∨ c = '<' ∨ c = '>')) ∨
      (escapeMark c = [c] ∧ c ≠ '&' ∧ c ≠ '<' ∧ c ≠ '>') := by
  unfold escapeMark
  split
  · next hquote =>
      refine .inr ⟨rfl, ?_⟩
      rcases hquote with rfl | rfl <;> decide
  · next hquote =>
      rw [not_or] at hquote
      unfold escapeChar
      split
      · next h => exact .inl ⟨"amp".toList, by subst h; decide⟩
      split
      · next h => exact .inl ⟨"lt".toList, by subst h; decide⟩
      split
      · next h => exact .inl ⟨"gt".toList, by subst h; decide⟩
      · next h₁ h₂ h₃ =>
          rw [if_neg hquote.1, if_neg hquote.2]
          exact .inr ⟨rfl, h₁, h₂, h₃⟩

/-- Replacing the references of character data gives the text. -/
theorem unescape?_escapeMarks (cs : List Char) : unescape? (escapeMarks cs) = some cs := by
  induction cs with
  | nil => exact unescape?_nil
  | cons c cs ih =>
      rw [escapeMarks_cons]
      obtain ⟨name, hwritten, hname, hchar, -⟩ | ⟨hwritten, hne, -⟩ := escapeMark_cases c
      · rw [hwritten, List.cons_append, List.append_assoc, List.singleton_append,
          unescape?_reference (isReferenceName_of_isAlpha (List.all_eq_true.mp hname)) hchar, ih]
        rfl
      · rw [hwritten, List.singleton_append, unescape?_cons hne, ih]
        rfl

theorem bracket_not_mem_escapeMarks (cs : List Char) : '<' ∉ escapeMarks cs := by
  induction cs with
  | nil => exact List.not_mem_nil
  | cons c cs ih =>
      rw [escapeMarks_cons, List.mem_append, not_or]
      refine ⟨?_, ih⟩
      obtain ⟨name, hwritten, hname, -⟩ | ⟨hwritten, -, hne, -⟩ := escapeMark_cases c
      · intro hmem
        have hletter : '<' ∈ name := by simpa [hwritten] using hmem
        exact absurd (List.all_eq_true.mp hname _ hletter) (by decide)
      · rw [hwritten, List.mem_singleton]
        exact Ne.symm hne

/-- White space is written as it is, and nothing else is written as white space. -/
theorem all_isSpace_escapeMarks (cs : List Char) :
    (escapeMarks cs).all isSpace = cs.all isSpace := by
  induction cs with
  | nil => rfl
  | cons c cs ih =>
      rw [escapeMarks_cons, List.all_append, ih, List.all_cons]
      obtain ⟨name, hwritten, -, -, hc⟩ | ⟨hwritten, -⟩ := escapeMark_cases c
      · have hspace : isSpace c = false := by rcases hc with rfl | rfl | rfl <;> rfl
        have hmark : isSpace '&' = false := rfl
        rw [hwritten, List.all_cons, hmark, hspace, Bool.false_and]
      · rw [hwritten, List.all_cons, List.all_nil, Bool.and_true]

end MetadataHarvest.Markup

namespace MetadataHarvest.Protocol

open Markup Text

section Escaped

variable {cs rest : List Char}

/-- Characters of a kind that has none of the three can be dropped before writing or after. -/
theorem dropWhile_escapeMarks {p : Char → Bool} (hp : p '&' = false ∧ p '<' = false ∧ p '>' = false)
    (cs : List Char) : (escapeMarks cs).dropWhile p = escapeMarks (cs.dropWhile p) := by
  apply dropWhile_flatMap
  · intro c hc
    obtain ⟨name, -, -, -, rfl | rfl | rfl⟩ | ⟨hwritten, -⟩ := escapeMark_cases c
    · rw [hp.1] at hc
      cases hc
    · rw [hp.2.1] at hc
      cases hc
    · rw [hp.2.2] at hc
      cases hc
    · exact hwritten
  · intro c hc
    obtain ⟨name, hwritten, -⟩ | ⟨hwritten, -⟩ := escapeMark_cases c
    · exact ⟨'&', _, hwritten, hp.1⟩
    · exact ⟨c, [], hwritten, hc⟩

theorem afterWord?_cons (x c : Char) (word cs : List Char) :
    afterWord? (x :: word) (c :: cs) = if x = c then afterWord? word cs else none := by
  by_cases h : x = c
  · simp [afterWord?, h]
  · simp [afterWord?, h]

/-- A word without any of the three is found before writing or after. -/
theorem afterWord?_escapeMarks {word : List Char}
    (hword : ∀ c ∈ word, c ≠ '&' ∧ c ≠ '<' ∧ c ≠ '>') (cs : List Char) :
    afterWord? word (escapeMarks cs) = (afterWord? word cs).map escapeMarks := by
  induction word generalizing cs with
  | nil => rfl
  | cons x word ih =>
      rw [List.forall_mem_cons] at hword
      cases cs with
      | nil => rfl
      | cons c cs =>
          rw [afterWord?_cons, escapeMarks_cons]
          obtain ⟨name, hwritten, -, -, hc⟩ | ⟨hwritten, -⟩ := escapeMark_cases c
          · have hne : x ≠ c := by
              rintro rfl
              obtain rfl | rfl | rfl := hc <;> simp at hword
            rw [hwritten, List.cons_append, afterWord?_cons, if_neg hword.1.1, if_neg hne]
            rfl
          · rw [hwritten, List.singleton_append, afterWord?_cons, ih hword.2]
            split <;> rfl

theorem isEmpty_takeWhile {p : Char → Bool} (cs : List Char) :
    (cs.takeWhile p).isEmpty = !(cs.head?.any p) := by
  cases cs with
  | nil => rfl
  | cons c cs => cases hc : p c <;> simp [hc]

theorem head?_any_escapeMarks {p : Char → Bool}
    (hp : p '&' = false ∧ p '<' = false ∧ p '>' = false) (cs : List Char) :
    (escapeMarks cs).head?.any p = cs.head?.any p := by
  cases cs with
  | nil => rfl
  | cons c cs =>
      rw [escapeMarks_cons]
      obtain ⟨name, hwritten, -, -, rfl | rfl | rfl⟩ | ⟨hwritten, -⟩ := escapeMark_cases c
      all_goals simp [hwritten, hp]

theorem afterBoundPrefix_escapeMarks (cs : List Char) :
    afterBoundPrefix (escapeMarks cs) = escapeMarks (afterBoundPrefix cs) := by
  have hname : isNameChar '&' = false ∧ isNameChar '<' = false ∧ isNameChar '>' = false := by
    decide
  by_cases hcolon : ∃ rest, cs = ':' :: rest
  · obtain ⟨rest, rfl⟩ := hcolon
    have hwritten : escapeMarks (':' :: rest) = ':' :: escapeMarks rest := rfl
    rw [hwritten, afterBoundPrefix, afterBoundPrefix, isEmpty_takeWhile, isEmpty_takeWhile,
      head?_any_escapeMarks hname, dropWhile_escapeMarks hname]
    split <;> rfl
  · have hself {ds : List Char} (h : ¬∃ rest, ds = ':' :: rest) : afterBoundPrefix ds = ds := by
      rw [afterBoundPrefix]
      exact fun rest hrest => h ⟨rest, hrest⟩
    rw [hself hcolon, hself]
    rintro ⟨rest, hrest⟩
    have hhead := head?_any_escapeMarks (p := (· == ':')) (by decide) cs
    rw [hrest] at hhead
    cases cs with
    | nil => cases hrest
    | cons c cs =>
        obtain rfl : c = ':' := by simpa using hhead.symm
        exact hcolon ⟨cs, rfl⟩

/-- References have no quotation mark. -/
theorem dropWhile_quote_escapeMarks (cs : List Char) :
    (escapeMarks cs).dropWhile (· ≠ '"') = escapeMarks (cs.dropWhile (· ≠ '"')) := by
  induction cs with
  | nil => rfl
  | cons c cs ih =>
      rw [escapeMarks_cons]
      obtain ⟨name, hwritten, hname, -, hc⟩ | ⟨hwritten, -⟩ := escapeMark_cases c
      · have hne : c ≠ '"' := by rcases hc with rfl | rfl | rfl <;> decide
        have hletters : ∀ d ∈ '&' :: (name ++ [';']), decide (d ≠ '"') = true := by
          intro d hd
          rw [decide_eq_true_eq]
          rintro rfl
          have hletter : '"' ∈ name := by simpa using hd
          exact absurd (List.all_eq_true.mp hname _ hletter) (by decide)
        rw [hwritten, List.dropWhile_append_of_pos hletters, ih, List.dropWhile_cons_of_pos]
        simpa using hne
      · rw [hwritten, List.singleton_append]
        by_cases hc : c = '"'
        · subst hc
          rfl
        · rw [List.dropWhile_cons_of_pos (by simpa using hc),
            List.dropWhile_cons_of_pos (by simpa using hc), ih]

/-- A declaration is found in a text before it is written or after. -/
theorem afterDeclaration?_escapeMarks (cs : List Char) :
    afterDeclaration? (escapeMarks cs) = (afterDeclaration? cs).map escapeMarks := by
  have hblank : isBlank '&' = false ∧ isBlank '<' = false ∧ isBlank '>' = false := by decide
  have hword : ∀ c ∈ "xmlns".toList, c ≠ '&' ∧ c ≠ '<' ∧ c ≠ '>' := by simp
  have hequals : ∀ c ∈ ['='], c ≠ '&' ∧ c ≠ '<' ∧ c ≠ '>' := by simp
  have hquote : ∀ c ∈ ['"'], c ≠ '&' ∧ c ≠ '<' ∧ c ≠ '>' := by simp
  simp only [afterDeclaration?, Option.bind_eq_bind, dropWhile_escapeMarks hblank,
    afterWord?_escapeMarks hword, afterWord?_escapeMarks hequals, afterWord?_escapeMarks hquote,
    afterBoundPrefix_escapeMarks, dropWhile_quote_escapeMarks, Option.bind_map, Option.map_bind,
    Function.comp_def]

theorem isBlank_escapeMark {c : Char} (h : isBlank c = false) :
    ∀ d ∈ escapeMark c, isBlank d = false := by
  obtain ⟨name, hwritten, hname, -⟩ | ⟨hwritten, -⟩ := escapeMark_cases c
  · have hletter : ∀ d ∈ name, isBlank d = false := fun d hd =>
      (isPlainChar_spec (isPlainChar_of_isAlpha (List.all_eq_true.mp hname d hd))).1
    rw [hwritten, List.forall_mem_cons, List.forall_mem_append, List.forall_mem_singleton]
    exact ⟨by decide, hletter, by decide⟩
  · simpa [hwritten] using h

/-- Declarations are removed from a text before it is written or after. -/
theorem removeDeclarations_escapeMarks (cs : List Char) :
    removeDeclarations 0 (escapeMarks cs) = escapeMarks (removeDeclarations 0 cs) := by
  match cs with
  | [] => rfl
  | c :: cs =>
      rw [escapeMarks_cons]
      cases hc : isBlank c with
      | true =>
          have hwritten : escapeMark c = [c] := by
            obtain ⟨-, -, -, -, rfl | rfl | rfl⟩ | ⟨hwritten, -⟩ := escapeMark_cases c
            · cases hc
            · cases hc
            · cases hc
            · exact hwritten
          rw [hwritten, List.singleton_append]
          cases hfound : afterDeclaration? cs with
          | none =>
              have hnone : afterDeclaration? (escapeMarks cs) = none := by
                rw [afterDeclaration?_escapeMarks, hfound, Option.map_none]
              rw [removeDeclarations_of_none fun _ => hnone,
                removeDeclarations_of_none fun _ => hfound, escapeMarks_cons, hwritten,
                removeDeclarations_escapeMarks cs, List.singleton_append]
          | some rest =>
              have hsome : afterDeclaration? (escapeMarks cs) = some (escapeMarks rest) := by
                rw [afterDeclaration?_escapeMarks, hfound, Option.map_some]
              have hshorter : rest.length < cs.length + 1 := by
                obtain ⟨d, -, rfl⟩ := afterDeclaration?_eq_some_iff.mp hfound
                rw [List.length_append]
                omega
              rw [removeDeclarations_of_some hc hsome, removeDeclarations_of_some hc hfound,
                removeDeclarations_escapeMarks rest]
      | false =>
          rw [removeDeclarations_append (isBlank_escapeMark hc), removeDeclarations_escapeMarks cs,
            removeDeclarations_of_none (by simp [hc]), escapeMarks_cons]
termination_by cs.length

end Escaped

/-- How a response carries a text. -/
inductive TextStyle where
  | characterData
  | cdata
  deriving DecidableEq

namespace TextStyle

def written : TextStyle → List Char → List Char
  | characterData, cs => escapeMarks cs
  | cdata, cs => writtenSection cs

/-- Whether a text can be written so: in a section nothing may end it. -/
def Permits : TextStyle → List Char → Prop
  | characterData, _ => True
  | cdata, cs => ¬sectionEnd <:+: cs

/-- Whether something in a text looks like a namespace when it is written so. -/
def HasLookalike : TextStyle → List Char → Prop
  | characterData, cs => HasDeclaration cs
  | cdata, cs => HasDeclaration cs ∨ HasPrefixedTag cs

/-- What is left of a text when namespaces are removed. -/
def left : TextStyle → List Char → List Char
  | characterData, cs => removeDeclarations 0 cs
  | cdata, cs => removeNamespaces cs

variable {style : TextStyle} {cs : List Char}

theorem permits_of_not_mem (h : ']' ∉ cs) : style.Permits cs := by
  cases style with
  | characterData => trivial
  | cdata => exact fun hend => h (hend.subset List.mem_cons_self)

/-- A text is left as it is exactly when nothing in it looks like a namespace. -/
theorem left_eq_self_iff : style.left cs = cs ↔ ¬style.HasLookalike cs := by
  constructor
  · intro h hlookalike
    have hlength := congrArg List.length h
    have hle := length_removePrefixes_le (removeDeclarations 0 cs)
    cases style with
    | characterData =>
        have hlt := length_removeDeclarations_lt hlookalike
        rw [left] at hlength
        omega
    | cdata =>
        rw [left, removeNamespaces] at hlength
        by_cases hdeclaration : HasDeclaration cs
        · have hlt := length_removeDeclarations_lt hdeclaration
          omega
        · rw [removeDeclarations_of_not hdeclaration] at hlength
          have hlt := length_removePrefixes_lt (hlookalike.resolve_left hdeclaration)
          omega
  · intro h
    cases style with
    | characterData => exact removeDeclarations_of_not h
    | cdata =>
        obtain ⟨hdeclaration, htag⟩ := not_or.mp h
        rw [left, removeNamespaces, removeDeclarations_of_not hdeclaration,
          removePrefixes_eq_self htag]

theorem all_isSpace_of_beginsWithWord (h : BeginsWithWord cs) : cs.all isSpace = false := by
  obtain ⟨c, hc, hblank⟩ := h
  obtain ⟨tail, rfl⟩ := List.head?_eq_some_iff.mp hc
  have hspace : isSpace c = false := by
    rw [← Bool.not_eq_true]
    intro hspace
    rw [isBlank_of_isSpace hspace] at hblank
    cases hblank
  rw [List.all_cons, hspace, Bool.false_and]

/-- What is left of a text without outer blanks has none, and is not white space alone. -/
theorem trim_left (htrim : trim cs = cs) (hne : cs ≠ []) :
    trim (style.left cs) = style.left cs ∧ (style.left cs).all isSpace = false := by
  obtain ⟨⟨c, hc, hblank⟩, hends⟩ := (trim_eq_self_iff.mp htrim).resolve_left hne
  obtain ⟨tail, rfl⟩ := List.head?_eq_some_iff.mp hc
  have hkept : removeDeclarations 0 (c :: tail) = c :: removeDeclarations 0 tail :=
    removeDeclarations_of_none (by simp [hblank])
  have hbegins : BeginsWithWord (removeDeclarations 0 (c :: tail)) := hkept ▸ ⟨c, rfl, hblank⟩
  have hends : EndsInWord (removeDeclarations 0 (c :: tail)) :=
    (endsInWord_removeDeclarations hends).resolve_left (by simp [hkept])
  have hboth : BeginsWithWord (style.left (c :: tail)) ∧ EndsInWord (style.left (c :: tail)) := by
    cases style with
    | characterData => exact ⟨hbegins, hends⟩
    | cdata => exact ⟨beginsWithWord_removePrefixes hbegins, endsInWord_removePrefixes hends⟩
  exact ⟨trim_eq_self_iff.mpr (.inr hboth), all_isSpace_of_beginsWithWord hboth.1⟩

/-- What is left of the written text is what is left of the text, written. -/
theorem removePrefixes_written (style : TextStyle) (cs rest : List Char) :
    removePrefixes 0 (removeDeclarations 0 (style.written cs) ++ rest) =
      style.written (style.left cs) ++ removePrefixes 0 rest := by
  cases style with
  | characterData =>
      rw [written, removeDeclarations_escapeMarks,
        removePrefixes_append (bracket_not_mem_escapeMarks _), written, left]
  | cdata =>
      let mark := '!' :: "[CDATA[".toList
      have hsection (cs : List Char) : writtenSection cs = '<' :: mark ++ (cs ++ sectionEnd) := by
        simp [writtenSection, mark]
      have hmark : ∀ c ∈ '<' :: mark, isBlank c = false := by
        have hall : ('<' :: mark).all (!isBlank ·) = true := by decide
        simpa using hall
      have hclosed : '<' ∉ mark ∧ '<' ∉ sectionEnd := by decide
      have hopening (rest : List Char) :
          removePrefixes 0 ('<' :: mark ++ rest) = '<' :: mark ++ removePrefixes 0 rest := by
        rw [List.cons_append, removePrefixes_of_not, removePrefixes_append hclosed.1]
        · rfl
        · intro kept tag after htag hsplit
          cases htag with
          | @intro slash name hslash hne hname =>
              have hsplit := (List.cons.inj hsplit).2
              obtain rfl | rfl := hslash
              · obtain ⟨c, name, rfl⟩ := List.exists_cons_of_ne_nil hne
                obtain rfl := (List.cons.inj hsplit).1
                exact absurd (hname _ List.mem_cons_self) (by decide)
              · exact absurd (List.cons.inj hsplit).1 (by decide)
      have hend := removePrefixes_append_bracket (removeDeclarations 0 cs) (']' :: '>' :: rest)
      have hbracket := removePrefixes_append hclosed.2 rest
      rw [written, hsection, removeDeclarations_append hmark,
        removeDeclarations_append_of_not_mem (by decide), List.append_assoc, List.append_assoc,
        hopening, written, hsection, left, removeNamespaces, List.append_assoc, List.append_assoc]
      exact congrArg ('<' :: mark ++ ·) (hend.trans (congrArg _ hbracket))

/-- A text that is not white space alone is read as it is. -/
theorem readsAs_written {value : String} (hshown : value.toList.all isSpace = false)
    (hpermits : style.Permits value.toList) :
    ReadsAs (style.written value.toList) (Content.text value .nil).events := by
  intro rest hrest htag
  rw [Content.events, hshown]
  cases style with
  | characterData =>
      rw [written, eventsFrom_raw (bracket_not_mem_escapeMarks _) (unescape?_escapeMarks _) hrest
        htag, all_isSpace_escapeMarks, hshown, String.ofList_toList]
      rfl
  | cdata =>
      rw [written, tokens_of_next? (Token.next?_section hpermits rest), eventsFrom,
        eventsFrom_of_tagFirst htag]
      simp [Run.close, Run.empty, Content.events]

end TextStyle

end MetadataHarvest.Protocol
