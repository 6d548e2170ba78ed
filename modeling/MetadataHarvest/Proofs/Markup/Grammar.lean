import MetadataHarvest.Proofs.Markup.RoundTrip

/-!
# The grammar of documents

Mixed content is spelled by tokens, and an element by the tokens between its tags. A text is read
as a document exactly when its tokens are a row of elements, at least one, with anything but tags
around them. The first element of the row is the document. A well-formed document has one element
alone, and outside of it no character data but white space.

## Implementation notes

That a text has a tree is one induction on the grammar. The other direction is an induction on the
number of tokens: what follows an opening tag is the content of the element, the closing tag, and
tokens that are read as if the element had been there already.
-/

namespace MetadataHarvest.Markup

open MetadataHarvest.Text Progress

/-- Comments, instructions and document type declarations leave no trace. -/
def Token.isSkipped : Token → Bool
  | .comment _ | .instruction _ | .doctype _ => true
  | _ => false

/-- What may stand beside the elements of a document: anything but a tag. -/
def Token.isOutside : Token → Bool
  | .opening _ _ _ | .closing _ | .malformed => false
  | _ => true

/-- What may stand beside the element of a well-formed document. -/
def Token.isMisc : Token → Bool
  | .text raw => (trimSpace raw).isEmpty
  | t => t.isSkipped

/-- The tokens that spell mixed content. -/
inductive Content.Spelled : Content → List Token → Prop
  | nil : Spelled .nil []
  | skipped {c : Content} {t : Token} {ts : List Token} (ht : t.isSkipped = true)
      (h : Spelled c ts) : Spelled c (t :: ts)
  | white {c : Content} {raw : List Char} {ts : List Token} (hraw : trimSpace raw = [])
      (h : Spelled c ts) : Spelled c (.text raw :: ts)
  | text {c : Content} {raw value : List Char} {ts : List Token} (hraw : trimSpace raw ≠ [])
      (hvalue : unescape? (trimSpace raw) = some value) (h : Spelled c ts) :
      Spelled (.text (String.ofList value) c) (.text raw :: ts)
  | cdata {c : Content} {content : List Char} {ts : List Token} (h : Spelled c ts) :
      Spelled (.text (String.ofList content) c) (.cdata content :: ts)
  | childless {c : Content} {name : String} {written : List Char}
      {attributes : List (String × String)} {ts : List Token}
      (hattributes : attributes? written = some attributes) (h : Spelled c ts) :
      Spelled (.element name attributes .nil c) (.opening name written true :: ts)
  | element {children c : Content} {name : String} {written : List Char}
      {attributes : List (String × String)} {inner ts : List Token}
      (hattributes : attributes? written = some attributes) (hchildren : Spelled children inner)
      (h : Spelled c ts) :
      Spelled (.element name attributes children c)
        (.opening name written false :: (inner ++ .closing name :: ts))

/-- The tokens that spell an element, from its first tag to its last. -/
inductive Element.Spelled : Element → List Token → Prop
  | childless {name : String} {written : List Char} {attributes : List (String × String)}
      (hattributes : attributes? written = some attributes) :
      Spelled ⟨name, attributes, .nil⟩ [.opening name written true]
  | tagged {children : Content} {name : String} {written : List Char}
      {attributes : List (String × String)} {inner : List Token}
      (hattributes : attributes? written = some attributes)
      (hchildren : children.Spelled inner) :
      Spelled ⟨name, attributes, children⟩
        (.opening name written false :: (inner ++ [.closing name]))

/-- Elements in a row, with tokens in `outside` around them. -/
inductive Row (outside : Token → Bool) : List Element → List Token → Prop
  | nil : Row outside [] []
  | outside {es : List Element} {t : Token} {ts : List Token} (ht : outside t = true)
      (h : Row outside es ts) : Row outside es (t :: ts)
  | element {e : Element} {es : List Element} {root ts : List Token} (he : e.Spelled root)
      (h : Row outside es ts) : Row outside (e :: es) (root ++ ts)

variable {e : Element} {es : List Element} {c : Content} {t : Token} {ts : List Token}
  {p q : Progress}

section Complete

theorem attributes?_nil : attributes? [] = some [] :=
  attributes?_written (by decide : areAttributes [] = true)

theorem step?_of_isSkipped (ht : t.isSkipped = true) (p : Progress) : p.step? t = some p := by
  cases t with
  | comment _ | instruction _ | doctype _ => rfl
  | text _ | cdata _ | opening _ _ _ | closing _ | malformed => cases ht

theorem foldlM_step?_cons (t : Token) (ts : List Token) (p : Progress) :
    (t :: ts).foldlM step? p = (p.step? t).bind fun q => ts.foldlM step? q := rfl

theorem foldlM_step?_append (ts us : List Token) (p : Progress) :
    (ts ++ us).foldlM step? p = (ts.foldlM step? p).bind fun q => us.foldlM step? q :=
  List.foldlM_append

/-- An element between its tags goes where a node goes. -/
theorem foldlM_step?_tagged {children : Content} {name : String} {written : List Char}
    {attributes : List (String × String)} {inner : List Token}
    (hattributes : attributes? written = some attributes)
    (hinner : ∀ p : Progress, inner.foldlM step? p = some (children.nodes.foldl attach p))
    (ts : List Token) (p : Progress) :
    (.opening name written false :: (inner ++ .closing name :: ts)).foldlM step? p =
      ts.foldlM step? (p.attach (.element ⟨name, attributes, children⟩)) := by
  have hopening : p.step? (.opening name written false) =
      some { p with stack := ⟨name, attributes, []⟩ :: p.stack } := by
    rw [step?, opening?, hattributes]
    rfl
  rw [foldlM_step?_cons, hopening, Option.bind_some, foldlM_step?_append, hinner,
    foldl_attach_cons, Option.bind_some, foldlM_step?_cons]
  simp [step?, closing?, OpenElement.close]

/-- Content is attached node by node. -/
theorem Content.Spelled.foldlM_step? (h : c.Spelled ts) (p : Progress) :
    ts.foldlM step? p = some (c.nodes.foldl attach p) := by
  induction h generalizing p with
  | nil => rfl
  | skipped ht _ ih => rw [foldlM_step?_cons, step?_of_isSkipped ht, Option.bind_some, ih]
  | @white _ raw _ hraw _ ih =>
      have hstep : p.step? (.text raw) = some p := by simp [step?, text?, hraw]
      rw [foldlM_step?_cons, hstep, Option.bind_some, ih]
  | @text c raw value _ hraw hvalue _ ih =>
      have hstep : p.step? (.text raw) = some (p.attach (.text (String.ofList value))) := by
        rw [step?, text?]
        cases hstack : p.stack with
        | nil => simp [attach, hstack]
        | cons e outer => simp [hraw, hvalue]
      rw [foldlM_step?_cons, hstep, Option.bind_some, ih]
      rfl
  | cdata _ ih =>
      rw [foldlM_step?_cons, step?, Option.bind_some, ih]
      rfl
  | childless hattributes _ ih =>
      rw [foldlM_step?_cons, step?, opening?, hattributes, Option.map_some, Option.bind_some, ih]
      rfl
  | element hattributes _ _ ihChildren ih =>
      rw [foldlM_step?_tagged hattributes ihChildren, ih]
      rfl

theorem Element.Spelled.foldlM_step? (h : e.Spelled ts) (p : Progress) :
    ts.foldlM step? p = some (p.attach (.element e)) := by
  cases h with
  | childless hattributes =>
      rw [foldlM_step?_cons, step?, opening?, hattributes]
      rfl
  | tagged hattributes hchildren =>
      rw [foldlM_step?_tagged hattributes hchildren.foldlM_step?]
      rfl

/-- Outside of all elements there is nothing to which a token could be attached. -/
theorem step?_of_isOutside (ht : t.isOutside = true) (root : Option Element) :
    step? ⟨[], root⟩ t = some ⟨[], root⟩ := by
  cases t with
  | text _ | cdata _ | comment _ | instruction _ | doctype _ => rfl
  | opening _ _ _ | closing _ | malformed => cases ht

/-- Of the elements in a row the first one is kept. -/
theorem Row.foldlM_step? (h : Row Token.isOutside es ts) (root : Option Element) :
    ts.foldlM step? ⟨[], root⟩ = some ⟨[], root.or es.head?⟩ := by
  induction h generalizing root with
  | nil => cases root <;> rfl
  | outside ht _ ih => rw [foldlM_step?_cons, step?_of_isOutside ht, Option.bind_some, ih]
  | element he _ ih =>
      rw [foldlM_step?_append, he.foldlM_step?, Option.bind_some, attach]
      cases root with
      | none => exact ih _
      | some first => exact ih _

/-- Content is spelled up to one of its elements, then the element, then the rest. -/
theorem Content.Spelled.exists_split (h : c.Spelled ts) {front back : List Element}
    (helements : c.elements = front ++ e :: back) :
    ∃ (c₁ c₂ : Content) (before spelled after : List Token),
      ts = before ++ (spelled ++ after) ∧ c₁.Spelled before ∧ c₁.elements = front ∧
        e.Spelled spelled ∧ c₂.Spelled after := by
  induction h generalizing front with
  | nil => simp [Content.elements] at helements
  | skipped ht _ ih =>
      obtain ⟨c₁, c₂, before, spelled, after, rfl, hbefore, hfront, he, hafter⟩ := ih helements
      exact ⟨c₁, c₂, _ :: before, spelled, after, rfl, .skipped ht hbefore, hfront, he, hafter⟩
  | white hraw _ ih =>
      obtain ⟨c₁, c₂, before, spelled, after, rfl, hbefore, hfront, he, hafter⟩ := ih helements
      exact ⟨c₁, c₂, _ :: before, spelled, after, rfl, .white hraw hbefore, hfront, he, hafter⟩
  | text hraw hvalue _ ih =>
      obtain ⟨c₁, c₂, before, spelled, after, rfl, hbefore, hfront, he, hafter⟩ := ih helements
      exact ⟨_, c₂, _ :: before, spelled, after, rfl, .text hraw hvalue hbefore, hfront, he, hafter⟩
  | cdata _ ih =>
      obtain ⟨c₁, c₂, before, spelled, after, rfl, hbefore, hfront, he, hafter⟩ := ih helements
      exact ⟨_, c₂, _ :: before, spelled, after, rfl, .cdata hbefore, hfront, he, hafter⟩
  | @childless c name written attributes ts hattributes hrest ih =>
      cases front with
      | nil =>
          obtain ⟨rfl, -⟩ := List.cons.inj helements
          exact ⟨.nil, c, [], _, ts, rfl, .nil, rfl, .childless hattributes, hrest⟩
      | cons first front =>
          obtain ⟨rfl, hmore⟩ := List.cons.inj helements
          obtain ⟨c₁, c₂, before, spelled, after, rfl, hbefore, rfl, he, hafter⟩ := ih hmore
          exact ⟨_, c₂, _ :: before, spelled, after, rfl, .childless hattributes hbefore, rfl, he,
            hafter⟩
  | @element children c name written attributes inner ts hattributes hchildren hrest _ ih =>
      cases front with
      | nil =>
          obtain ⟨rfl, -⟩ := List.cons.inj helements
          exact ⟨.nil, c, [], _, ts, by simp, .nil, rfl, .tagged hattributes hchildren, hrest⟩
      | cons first front =>
          obtain ⟨rfl, hmore⟩ := List.cons.inj helements
          obtain ⟨c₁, c₂, before, spelled, after, rfl, hbefore, rfl, he, hafter⟩ := ih hmore
          exact ⟨_, c₂, _, spelled, after, by simp, .element hattributes hchildren hbefore, rfl, he,
            hafter⟩

end Complete

section Sound

/-- What is read while an element is open is content and the closing tag, and what follows is read
as after the complete element. -/
theorem exists_of_read_open {o : OpenElement} {outer : List OpenElement} {root : Option Element}
    (ts : List Token) (h : ts.foldlM step? ⟨o :: outer, root⟩ = some q) (hq : q.stack = []) :
    ∃ (c : Content) (inner rest : List Token),
      ts = inner ++ .closing o.name :: rest ∧ c.Spelled inner ∧
      rest.foldlM step? (attach ⟨outer, root⟩
        (.element ⟨o.name, o.attributes, .ofNodes (o.children.reverse ++ c.nodes)⟩)) = some q := by
  match ts with
  | [] =>
      obtain rfl := Option.some.inj h
      cases hq
  | t :: ts =>
      rw [foldlM_step?_cons, Option.bind_eq_some_iff] at h
      obtain ⟨p, hp, h⟩ := h
      cases t with
      | comment _ | instruction _ | doctype _ =>
          obtain rfl := Option.some.inj hp
          obtain ⟨c, inner, rest, rfl, hinner, hrest⟩ := exists_of_read_open ts h hq
          exact ⟨c, _ :: inner, rest, rfl, .skipped rfl hinner, hrest⟩
      | cdata content =>
          obtain rfl := Option.some.inj hp
          obtain ⟨c, inner, rest, rfl, hinner, hrest⟩ := exists_of_read_open ts h hq
          refine ⟨_, _ :: inner, rest, rfl, .cdata hinner, ?_⟩
          simpa [OpenElement.push, Content.nodes] using hrest
      | text raw =>
          rw [step?, text?] at hp
          split at hp
          · next hempty =>
              obtain rfl := Option.some.inj hp
              obtain ⟨c, inner, rest, rfl, hinner, hrest⟩ := exists_of_read_open ts h hq
              exact ⟨c, _ :: inner, rest, rfl, .white (by simpa using hempty) hinner, hrest⟩
          · next hfilled =>
              obtain ⟨value, hvalue, rfl⟩ := Option.map_eq_some_iff.mp hp
              obtain ⟨c, inner, rest, rfl, hinner, hrest⟩ := exists_of_read_open ts h hq
              refine ⟨_, _ :: inner, rest, rfl, .text (by simpa using hfilled) hvalue hinner, ?_⟩
              simpa [OpenElement.push, Content.nodes] using hrest
      | opening name written selfClosing =>
          obtain ⟨attributes, hattributes, rfl⟩ := Option.map_eq_some_iff.mp hp
          cases selfClosing with
          | true =>
              obtain ⟨c, inner, rest, rfl, hinner, hrest⟩ := exists_of_read_open ts h hq
              refine ⟨_, _ :: inner, rest, rfl, .childless hattributes hinner, ?_⟩
              simpa [OpenElement.push, Content.nodes] using hrest
          | false =>
              -- The element that begins here ends before the one that is open.
              obtain ⟨children, inner, rest, rfl, hinner, hrest⟩ := exists_of_read_open ts h hq
              obtain ⟨c, inner', rest', rfl, hinner', hrest'⟩ := exists_of_read_open rest hrest hq
              refine ⟨.element name attributes children c,
                .opening name written false :: (inner ++ .closing name :: inner'), rest', ?_,
                .element hattributes hinner hinner', ?_⟩
              · simp [OpenElement.push]
              · simpa [OpenElement.push, Content.nodes] using hrest'
      | closing name =>
          rw [step?, closing?] at hp
          dsimp only at hp
          split at hp
          · next hname =>
              obtain rfl := hname
              obtain rfl := Option.some.inj hp
              refine ⟨.nil, [], ts, rfl, .nil, ?_⟩
              simpa [Content.nodes, OpenElement.close] using h
          · cases hp
      | malformed => cases hp
termination_by ts.length

/-- What is read outside of all elements is a row of elements. -/
theorem exists_of_read {root : Option Element} (ts : List Token)
    (h : ts.foldlM step? ⟨[], root⟩ = some q) (hq : q.stack = []) :
    ∃ es, Row Token.isOutside es ts ∧ q.root = root.or es.head? := by
  match ts with
  | [] =>
      obtain rfl := Option.some.inj h
      exact ⟨[], .nil, by simp⟩
  | t :: ts =>
      by_cases ht : t.isOutside = true
      · rw [foldlM_step?_cons, step?_of_isOutside ht, Option.bind_some] at h
        obtain ⟨es, hes, hroot⟩ := exists_of_read ts h hq
        exact ⟨es, .outside ht hes, hroot⟩
      rw [foldlM_step?_cons, Option.bind_eq_some_iff] at h
      obtain ⟨p, hp, h⟩ := h
      cases t with
      | text _ | cdata _ | comment _ | instruction _ | doctype _ => exact absurd rfl ht
      | opening name written selfClosing =>
          obtain ⟨attributes, hattributes, rfl⟩ := Option.map_eq_some_iff.mp hp
          cases selfClosing with
          | true =>
              obtain ⟨es, hes, hroot⟩ := exists_of_read ts h hq
              exact ⟨_, .element (.childless hattributes) hes, by cases root <;> exact hroot⟩
          | false =>
              obtain ⟨c, inner, rest, rfl, hinner, hrest⟩ := exists_of_read_open ts h hq
              obtain ⟨es, hes, hroot⟩ := exists_of_read rest hrest hq
              have hspelled : Element.Spelled ⟨name, attributes, c⟩ _ := .tagged hattributes hinner
              have hrow := Row.element hspelled hes
              rw [List.cons_append, List.append_assoc] at hrow
              refine ⟨_, hrow, ?_⟩
              cases root <;> simp [hroot]
      | closing name => cases hp
      | malformed => cases hp
termination_by ts.length

end Sound

/-- A text that is read as a document is a row of elements, of which the document is the first. -/
theorem Element.exists_row_of_parse {s : String} (h : Element.parse s = .ok e) :
    ∃ others, Row Token.isOutside (e :: others) (documentTokens s.toList) := by
  rw [parse] at h
  split at h
  · cases h
  · next q hq =>
      unfold finish at h
      split at h
      · cases h
      · cases h
      · next root hstack hroot =>
          obtain ⟨es, hes, hfirst⟩ := exists_of_read _ hq hstack
          cases h
          rw [hroot] at hfirst
          cases es with
          | nil => cases hfirst
          | cons first others =>
              cases hfirst
              exact ⟨others, hes⟩

theorem Element.parse_of_row {s : String}
    (h : Row Token.isOutside (e :: es) (documentTokens s.toList)) : Element.parse s = .ok e := by
  rw [parse, start, h.foldlM_step? none]
  rfl

/-- A text is read as a document exactly when its tokens are a row of elements, and the document is
the first of them, whatever character data and further elements stand beside it. -/
theorem Element.parse_eq_ok_iff (s : String) (e : Element) :
    Element.parse s = .ok e ↔
      ∃ others, Row Token.isOutside (e :: others) (documentTokens s.toList) := by
  constructor
  · exact exists_row_of_parse
  · rintro ⟨others, h⟩
    exact parse_of_row h

/-- Where there is no element, there is nothing but what may stand outside. -/
theorem Row.outside_of_mem {outside : Token → Bool} (h : Row outside [] ts) :
    ∀ t ∈ ts, outside t = true := by
  generalize hes : ([] : List Element) = es at h
  induction h with
  | nil => exact nofun
  | outside ht _ ih => exact List.forall_mem_cons.mpr ⟨ht, ih hes⟩
  | element _ _ _ => cases hes

/-- The first of two elements is read as a document, although no document has two. -/
theorem Element.not_row_of_parse :
    ¬∀ (s : String) (e : Element), Element.parse s = .ok e →
      Row Token.isMisc [e] (documentTokens s.toList) := by
  intro h
  have hfirst : Token.next? "<a/><b/>".toList =
      some (.opening "a" [] true, "<b/>".toList) := by decide
  have hsecond : Token.next? "<b/>".toList = some (.opening "b" [] true, []) := by decide
  have htokens : documentTokens "<a/><b/>".toList =
      [.opening "a" [] true, .opening "b" [] true] := by
    have hall : tokens "<a/><b/>".toList = _ := tokens_of_next? hfirst
    rwa [tokens_of_next? hsecond, tokens_nil] at hall
  have hparse : Element.parse "<a/><b/>" = .ok ⟨"a", [], .nil⟩ := by
    apply parse_of_row
    rw [htokens]
    exact .element (.childless attributes?_nil) (.element (.childless attributes?_nil) .nil)
  have hrow := h _ _ hparse
  rw [htokens] at hrow
  generalize hts : [Token.opening "a" [] true, .opening "b" [] true] = ts at hrow
  cases hrow with
  | outside ht _ =>
      cases hts
      cases ht
  | element he hrest =>
      cases he with
      | childless _ =>
          cases hts
          exact absurd (hrest.outside_of_mem _ List.mem_cons_self) (by decide)
      | tagged _ _ => cases hts

end MetadataHarvest.Markup
