import MetadataHarvest.Proofs.Markup.RoundTrip

/-!
# Texts that were cut off

A written element that was cut off is not read, wherever it was cut, unless nothing but the
last angle bracket is missing. What decides this is the nesting of the tags alone, so character
data and attributes are left out of account: no part of the text of some content closes an
element around it.
-/

namespace MetadataHarvest.Markup

open MetadataHarvest.Text

section Prefix

/-- The front of two texts is the front of the first, or the first and the front of the second. -/
theorem prefix_append_cases {cs front back : List Char} (h : cs <+: front ++ back) :
    cs <+: front ∨ ∃ tail, tail <+: back ∧ cs = front ++ tail := by
  rcases List.prefix_or_prefix_of_prefix h (List.prefix_append front back) with h' | ⟨tail, rfl⟩
  · exact .inl h'
  · exact .inr ⟨tail, (List.prefix_append_right_inj front).mp h, rfl⟩

theorem atTag_of_cut {cs rest : List Char} (h : cs <+: '<' :: rest) : AtTag cs := by
  cases cs with
  | nil => exact atTag_nil
  | cons c cs =>
      obtain rfl : c = '<' := (List.cons_prefix_cons.mp h).1
      exact atTag_cons cs

end Prefix

/-- The names of the open elements after one more token, innermost first, when the tags nest so
far. -/
def nestStep? (names : List String) : Token → Option (List String)
  | .opening name _ selfClosing => some (if selfClosing then names else name :: names)
  | .closing name =>
    match names with
    | [] => none
    | innermost :: outer => if innermost = name then some outer else none
  | .malformed => none
  | _ => some names

/-- The names of the open elements after a text. -/
def nest? (names : List String) (cs : List Char) : Option (List String) :=
  (tokens cs).foldlM nestStep? names

section Nest

variable {names : List String} {cs rest : List Char} {t : Token}

@[simp] theorem nest?_nil : nest? names [] = some names := by
  rw [nest?, tokens_nil]
  rfl

theorem nest?_of_next? (h : Token.next? cs = some (t, rest)) :
    nest? names cs = (nestStep? names t).bind (nest? · rest) := by
  rw [nest?, tokens_of_next? h, List.foldlM_cons]
  rfl

/-- A lone angle bracket at the end is nothing. -/
theorem tokens_bracket : tokens ['<'] = [] := by
  rw [tokens]
  rfl

theorem nest?_bracket : nest? names ['<'] = some names := by
  rw [nest?, tokens_bracket]
  rfl

/-- Character data opens and closes nothing. -/
theorem nest?_text {raw : List Char} (hraw : '<' ∉ raw) (rest : List Char) :
    nest? names (raw ++ rest) = nest? names rest := by
  have hmore : ∀ {more tail : List Char}, '<' ∉ more → AtTag tail →
      nest? names (more ++ tail) = nest? names tail := by
    intro more tail hmore htail
    by_cases hne : more = []
    · rw [hne, List.nil_append]
    · rw [nest?_of_next? (Token.next?_text hne hmore htail)]
      rfl
  have hplain : '<' ∉ rest.takeWhile (· ≠ '<') := by
    intro hmem
    simpa using List.all_eq_true.mp List.all_takeWhile _ hmem
  have htail : AtTag (rest.dropWhile (· ≠ '<')) := by
    intro c hc
    have hstop := List.head?_dropWhile_not (· ≠ '<') rest
    rw [Option.mem_def.mp hc] at hstop
    simpa using hstop
  rw [← List.takeWhile_append_dropWhile (p := (· ≠ '<')) (l := rest), ← List.append_assoc,
    hmore _ htail, hmore hplain htail]
  rw [List.mem_append, not_or]
  exact ⟨hraw, hplain⟩

variable {name : String} {attributes : List (String × String)}

theorem nest?_openingTag (hname : isName name = true)
    (hattributes : ∀ a ∈ attributes, isName a.1 = true) (rest : List Char) :
    nest? names (openingTag name attributes ++ rest) = nest? (name :: names) rest := by
  rw [nest?_of_next? (Token.next?_openingTag hname hattributes rest)]
  rfl

theorem nest?_closingTag (hname : isName name = true) (rest : List Char) :
    nest? (name :: names) (closingTag name ++ rest) = nest? names rest := by
  rw [nest?_of_next? (Token.next?_closingTag hname rest)]
  simp [nestStep?]

/-- Content closes what it opens, and nothing else. -/
theorem nest?_written {c : Content} (hc : c.isNamed = true) (rest : List Char) :
    nest? names (c.written ++ rest) = nest? names rest := by
  induction c generalizing names rest with
  | nil => rfl
  | text value more ih =>
      rw [Content.written, List.append_assoc, nest?_text (bracket_not_mem_escape _), ih hc]
  | element name attributes children more ihChildren ihMore =>
      simp only [Content.isNamed, Bool.and_eq_true, List.all_eq_true] at hc
      obtain ⟨⟨⟨hname, hattributes⟩, hchildren⟩, hmore⟩ := hc
      simp only [Content.written, List.append_assoc]
      rw [nest?_openingTag hname hattributes, ihChildren hchildren, nest?_closingTag hname,
        ihMore hmore]

/-- A body that is complete does not depend on what follows the tag. -/
theorem tagBody?_append_of_some {quote : Option Char} {body : List Char}
    (h : Token.tagBody? quote cs = some (body, rest)) (more : List Char) :
    Token.tagBody? quote (cs ++ more) = some (body, rest ++ more) := by
  induction cs generalizing quote body with
  | nil => cases h
  | cons c cs ih =>
      simp only [List.cons_append, Token.tagBody?] at h ⊢
      split at h
      · next hend =>
          cases h
          rw [if_pos hend]
      · next hgoes =>
          obtain ⟨⟨body', rest'⟩, hbody, hparts⟩ := Option.map_eq_some_iff.mp h
          cases hparts
          rw [if_neg hgoes, ih hbody]
          rfl

/-- Of an opening tag that was cut off at most the bracket can be read, and it is nothing. -/
theorem nest?_openingTag_cut (hname : isName name = true)
    (hattributes : ∀ a ∈ attributes, isName a.1 = true) (h : cs <+: openingTag name attributes)
    (hcut : cs ≠ openingTag name attributes) {after : List String}
    (hafter : nest? names cs = some after) : cs.length ≤ 1 ∧ after = names := by
  obtain ⟨missing, hmissing⟩ := h
  match cs, hmissing with
  | [], _ => exact ⟨Nat.zero_le 1, by simpa using hafter.symm⟩
  | ['<'], _ =>
      rw [nest?_bracket] at hafter
      exact ⟨Nat.le_refl 1, (Option.some.inj hafter).symm⟩
  | bracket :: first :: body, hmissing =>
      obtain ⟨c, name', hfirst, hstart⟩ := exists_of_isName hname
      have hbody := Token.tagBody?_written hname hattributes [] [] (by simp [Token.tagBody?])
      simp only [openingTag, hfirst, List.cons_append, List.cons.injEq, List.append_assoc,
        List.append_nil] at hmissing hbody
      obtain ⟨rfl, rfl, hmissing⟩ := hmissing
      have hopen : Token.tagBody? none (first :: body) = none := by
        cases hpart : Token.tagBody? none (first :: body) with
        | none => rfl
        | some parts =>
            have hall := tagBody?_append_of_some hpart missing
            rw [List.cons_append, hmissing, hbody] at hall
            obtain ⟨-, hrest⟩ := Prod.mk.inj (Option.some.inj hall)
            obtain rfl : missing = [] := (List.append_eq_nil_iff.mp hrest.symm).2
            rw [List.append_nil] at hmissing
            exact absurd (by simp [openingTag, hfirst, hmissing]) hcut
      have hnext : Token.next? ('<' :: first :: body) = some (.malformed, []) := by
        rw [Token.next?, Token.markup?_of_isNameStart hstart, hopen]
      rw [nest?_of_next? hnext] at hafter
      cases hafter

/-- A closing tag may lack its bracket. -/
theorem next?_closingTag_open {part : List Char} (h : ∀ c ∈ part, isNameChar c = true) :
    Token.next? ('<' :: '/' :: part) = some (.closing (String.ofList part), []) := by
  have hplain : ∀ c ∈ part, decide (c ≠ '>') = true := by
    intro c hc
    exact decide_eq_true (ne_of_isNameChar (h c hc) (by decide))
  have hend : ∀ c ∈ ([] : List Char).head?, decide (c ≠ '>') = false := by simp
  have htake : part.takeWhile (· ≠ '>') = part := by
    simpa using takeWhile_append_of_head? hplain hend
  have hdrop : part.dropWhile (· ≠ '>') = [] := by
    simpa using dropWhile_append_of_head? hplain hend
  rw [Token.next?, Token.markup?, htake, hdrop, Token.ofClosingBody_of_isNameChar h]
  rfl

/-- A closing tag that was cut off leaves its element open, unless the name is complete. -/
theorem nest?_closingTag_cut (hname : isName name = true) (h : cs <+: closingTag name)
    {after : List String} (hafter : nest? (name :: names) cs = some after) :
    after = name :: names ∨ after = names ∧ closingTag name <+: cs ++ ['>'] := by
  rcases List.prefix_concat_iff.mp h with hwhole | hopen
  · have hnest : nest? (name :: names) _ = _ := nest?_closingTag hname []
    rw [List.append_nil, closingTag, ← hwhole, hafter, nest?_nil] at hnest
    exact .inr ⟨Option.some.inj hnest, hwhole ▸ List.prefix_append cs ['>']⟩
  cases cs with
  | nil => exact .inl (by simpa using hafter.symm)
  | cons bracket cs =>
      cases cs with
      | nil =>
          obtain rfl : bracket = '<' := (List.cons_prefix_cons.mp hopen).1
          rw [nest?_bracket] at hafter
          exact .inl (Option.some.inj hafter).symm
      | cons slash part =>
          obtain ⟨rfl, rfl, hpart⟩ := by simpa only [List.cons_prefix_cons] using hopen
          have hchars : ∀ c ∈ part, isNameChar c = true := fun c hc =>
            isNameChar_of_isName hname c (hpart.subset hc)
          rw [nest?_of_next? (next?_closingTag_open hchars), nestStep?] at hafter
          split at hafter
          · next heq =>
              rw [Option.bind_some, nest?_nil] at hafter
              refine .inr ⟨(Option.some.inj hafter).symm, ?_⟩
              simp [closingTag, heq]
          · cases hafter

/-- Where the text of an element was cut: at its first bracket, inside of it, before the last
bracket, or in what follows. -/
theorem nest?_element_cut {children : Content} {back : List Char} {after : List String}
    (hname : isName name = true) (hattributes : ∀ a ∈ attributes, isName a.1 = true)
    (hchildren : children.isNamed = true)
    (hinside : ∀ {tail : List Char}, tail <+: children.written →
      nest? (name :: names) tail = some after → (name :: names).length ≤ after.length)
    (h : cs <+: openingTag name attributes ++ (children.written ++ (closingTag name ++ back)))
    (hafter : nest? names cs = some after) :
    (cs.length ≤ 1 ∧ after = names) ∨ names.length < after.length ∨
      (after = names ∧
        openingTag name attributes ++ (children.written ++ closingTag name) <+: cs ++ ['>']) ∨
      ∃ tail, tail <+: back ∧ nest? names tail = some after ∧
        cs = openingTag name attributes ++ (children.written ++ (closingTag name ++ tail)) := by
  rcases prefix_append_cases h with hopening | ⟨inner, hinner, rfl⟩
  · by_cases hwhole : cs = openingTag name attributes
    · have hnest : nest? names _ = _ := nest?_openingTag hname hattributes []
      rw [List.append_nil, ← hwhole, hafter, nest?_nil] at hnest
      obtain rfl := Option.some.inj hnest
      exact .inr (.inl (Nat.lt_succ_self _))
    · exact .inl (nest?_openingTag_cut hname hattributes hopening hwhole hafter)
  rw [nest?_openingTag hname hattributes] at hafter
  rcases prefix_append_cases hinner with hinner | ⟨closing, hclosing, rfl⟩
  · exact .inr (.inl (hinside hinner hafter))
  rw [nest?_written hchildren] at hafter
  rcases prefix_append_cases hclosing with hclosing | ⟨tail, htail, rfl⟩
  · rcases nest?_closingTag_cut hname hclosing hafter with rfl | ⟨rfl, hlast⟩
    · exact .inr (.inl (Nat.lt_succ_self _))
    · refine .inr (.inr (.inl ⟨rfl, ?_⟩))
      simpa [List.append_assoc] using hlast
  · rw [nest?_closingTag hname] at hafter
    exact .inr (.inr (.inr ⟨tail, htail, hafter, rfl⟩))

/-- No part of the text of some content closes an element around it. -/
theorem length_le_of_nest?_cut {c : Content} (hc : c.isNamed = true) (h : cs <+: c.written)
    {after : List String} (hafter : nest? names cs = some after) :
    names.length ≤ after.length := by
  induction c generalizing names cs with
  | nil =>
      obtain rfl := List.prefix_nil.mp h
      rw [nest?_nil] at hafter
      exact (Option.some.inj hafter) ▸ Nat.le_refl _
  | text value more ih =>
      rcases prefix_append_cases h with htext | ⟨tail, htail, rfl⟩
      · have hraw : '<' ∉ cs := fun hmem => bracket_not_mem_escape _ (htext.subset hmem)
        have hnest : nest? names _ = _ := nest?_text hraw []
        rw [List.append_nil, hafter, nest?_nil] at hnest
        exact (Option.some.inj hnest) ▸ Nat.le_refl _
      · rw [nest?_text (bracket_not_mem_escape _)] at hafter
        exact ih hc htail hafter
  | element name attributes children more ihChildren ihMore =>
      simp only [Content.isNamed, Bool.and_eq_true, List.all_eq_true] at hc
      obtain ⟨⟨⟨hname, hattributes⟩, hchildren⟩, hmore⟩ := hc
      simp only [Content.written, List.append_assoc] at h
      rcases nest?_element_cut hname hattributes hchildren
          (fun htail => ihChildren hchildren htail) h hafter with
        ⟨-, rfl⟩ | hlt | ⟨rfl, -⟩ | ⟨tail, htail, hnest, -⟩
      · exact Nat.le_refl _
      · exact Nat.le_of_lt hlt
      · exact Nat.le_refl _
      · exact ihMore hmore htail hnest

end Nest

namespace Progress

/-- The names of the open elements, innermost first. -/
def names (p : Progress) : List String := p.stack.map (·.name)

theorem names_attach (p : Progress) (n : Node) : (p.attach n).names = p.names := by
  unfold attach
  split
  · next h => simp [names, h, OpenElement.push]
  · cases n <;> rfl

/-- Reading goes on only where the tags nest. -/
theorem nestStep?_of_step? {p q : Progress} {t : Token} (h : p.step? t = some q) :
    nestStep? p.names t = some q.names := by
  cases t with
  | text raw =>
      rw [step?, text?] at h
      split at h
      · obtain rfl := Option.some.inj h
        rfl
      · obtain ⟨value, -, rfl⟩ := Option.map_eq_some_iff.mp h
        rw [names_attach]
        rfl
  | cdata content =>
      obtain rfl := Option.some.inj h
      rw [names_attach]
      rfl
  | comment content | instruction content | doctype content =>
      obtain rfl := Option.some.inj h
      rfl
  | opening name written selfClosing =>
      obtain ⟨attributes, -, rfl⟩ := Option.map_eq_some_iff.mp h
      cases selfClosing with
      | true => simp [nestStep?, names_attach]
      | false => rfl
  | closing name =>
      rw [step?, closing?] at h
      split at h
      · next e outer hstack =>
          split at h
          · next hname =>
              obtain rfl := Option.some.inj h
              rw [names_attach]
              simp [nestStep?, names, hstack, hname]
          · cases h
      · cases h
  | malformed => cases h

theorem nest?_of_read? {p q : Progress} {cs : List Char} (h : p.read? cs = some q) :
    nest? p.names cs = some q.names := by
  rw [read?] at h
  rw [nest?]
  generalize tokens cs = ts at h ⊢
  induction ts generalizing p with
  | nil =>
      obtain rfl := Option.some.inj h
      rfl
  | cons t ts ih =>
      rw [List.foldlM_cons, Option.bind_eq_bind, Option.bind_eq_some_iff] at h
      obtain ⟨p', hstep, hrest⟩ := h
      rw [List.foldlM_cons, nestStep?_of_step? hstep]
      exact ih hrest

/-- Where an element is open the text may not end. -/
theorem exists_finish_eq_error {p : Progress} (h : p.names ≠ []) :
    ∃ fault, p.finish = .error fault := by
  obtain ⟨stack, root⟩ := p
  cases stack with
  | nil => exact absurd rfl h
  | cons e outer => exact ⟨_, rfl⟩

end Progress

open Progress

/-- A text that ends before the name of its first tag has no root. -/
theorem read?_of_length_le_one {e : Element} {cs : List Char} (h : cs <+: e.written)
    (hshort : cs.length ≤ 1) : start.read? cs = some start := by
  match cs, h with
  | [], _ => exact read?_nil start
  | [c], h =>
      obtain rfl : c = '<' := (List.cons_prefix_cons.mp h).1
      rw [read?, tokens_bracket]
      rfl

namespace Element

variable {e : Element} {cs : List Char}

/-- An element that was cut off is not read when more than the last bracket is missing. -/
theorem parse_of_cut (he : e.isNamed = true) (h : cs <+: e.written) (hcut : cs ≠ e.written)
    (hlast : cs ++ ['>'] ≠ e.written) :
    ∃ fault, Element.parse (String.ofList cs) = .error fault := by
  have hbom : ∀ c ∈ cs.head?, c ≠ '\ufeff' := by
    intro c hc
    rw [atTag_of_cut h c hc]
    decide
  rw [parse_ofList hbom]
  cases hread : start.read? cs with
  | none => exact ⟨_, rfl⟩
  | some p =>
      have hafter : nest? [] cs = some p.names := nest?_of_read? hread
      have hwritten (tail : List Char) : e.written ++ tail = openingTag e.name e.attributes ++
          (e.content.written ++ (closingTag e.name ++ tail)) := by simp [written]
      have hprefix := h.trans (List.prefix_append e.written [])
      rw [hwritten] at hprefix
      simp only [isNamed, alone, Content.isNamed, Bool.and_eq_true, List.all_eq_true] at he
      obtain ⟨⟨⟨hname, hattributes⟩, hcontent⟩, -⟩ := he
      rcases nest?_element_cut hname hattributes hcontent
          (fun htail => length_le_of_nest?_cut hcontent htail) hprefix hafter with
        ⟨hshort, -⟩ | hopen | ⟨-, hwhole⟩ | ⟨tail, htail, -, hwhole⟩
      · rw [read?_of_length_le_one h hshort] at hread
        obtain rfl := Option.some.inj hread
        exact ⟨_, rfl⟩
      · exact exists_finish_eq_error (List.ne_nil_of_length_pos hopen)
      · rw [← List.append_assoc] at hwhole
        rcases List.prefix_concat_iff.mp hwhole with heq | hback
        · exact absurd heq.symm hlast
        · exact absurd (h.eq_of_length (Nat.le_antisymm h.length_le hback.length_le)) hcut
      · rw [List.prefix_nil.mp htail, ← hwritten, List.append_nil] at hwhole
        exact absurd hwhole hcut

/-- An element is read in full when its last bracket is missing. -/
theorem parse_of_append_bracket (he : e.isCanonical = true) (h : cs ++ ['>'] = e.written) :
    Element.parse (String.ofList cs) = .ok e := by
  obtain rfl : cs = openingTag e.name e.attributes ++
      (e.content.written ++ ('<' :: '/' :: e.name.toList)) := by
    refine List.append_cancel_right (?_ : _ ++ ['>'] = _)
    simpa [written, closingTag] using h
  simp only [isCanonical, alone, Content.isCanonical, Bool.and_eq_true] at he
  obtain ⟨⟨⟨hname, hattributes⟩, hcontent⟩, -⟩ := he
  have hclosing := next?_closingTag_open (isNameChar_of_isName hname)
  have hbom : ∀ c ∈ (openingTag e.name e.attributes ++
      (e.content.written ++ ('<' :: '/' :: e.name.toList))).head?, c ≠ '\ufeff' := by
    simp [openingTag]
  rw [parse_ofList hbom, read?_openingTag hname hattributes,
    (e.content.laidOut_written true).read? hcontent (atTag_cons _), foldl_attach_cons,
    read?_of_next? hclosing]
  simp [step?, closing?, OpenElement.close, attach, start, finish]

/-- Without its last bracket an element is read although it is not complete. -/
theorem parse_unfinished_closingTag :
    ¬∀ (e : Element) (cs : List Char), e.isCanonical = true → cs <+: e.written →
      cs ≠ e.written → ∃ fault, Element.parse (String.ofList cs) = .error fault := by
  intro h
  have hwritten : "<a></a".toList ++ ['>'] = (⟨"a", [], .nil⟩ : Element).written := by decide
  obtain ⟨fault, hfault⟩ := h ⟨"a", [], .nil⟩ "<a></a".toList (by decide)
    ⟨['>'], hwritten⟩ (by decide)
  rw [parse_of_append_bracket (by decide) hwritten] at hfault
  cases hfault

end Element

end MetadataHarvest.Markup
