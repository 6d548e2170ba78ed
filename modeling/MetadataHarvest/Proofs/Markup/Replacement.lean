import MetadataHarvest.Proofs.Markup.Descendants
import MetadataHarvest.Proofs.Markup.Enclosure

/-!
# One element in the place of another

An element of a tree is replaced by another one. The descendants with their name stay what they
were, except that one of them is replaced, if no element with the name stands around the two or
inside. What is looked up among the children is found in both trees in the same place.
-/

namespace MetadataHarvest.Markup

/-- The second content is the first one with `e'` in the place of `e`, which stands in no element
with this name. -/
inductive Content.Replaced (name : String) (e e' : Element) : Content → Content → Prop
  | here (before after : List Node) :
      Replaced name e e' (.ofNodes (before ++ .element e :: after))
        (.ofNodes (before ++ .element e' :: after))
  | inside (before after : List Node) {outer : Element} {content : Content}
      (hname : outer.name ≠ name) (h : Replaced name e e' outer.content content) :
      Replaced name e e' (.ofNodes (before ++ .element outer :: after))
        (.ofNodes (before ++ .element { outer with content } :: after))

/-- The second element is the first one with `e'` in the place of `e` inside. -/
inductive Element.Replaced (name : String) (e e' : Element) : Element → Element → Prop
  | inside {outer : Element} {content : Content} (hname : outer.name ≠ name)
      (h : outer.content.Replaced name e e' content) :
      Replaced name e e' outer { outer with content }

namespace Content

theorem descendants_ofNodes_append (front back : List Node) :
    (ofNodes (front ++ back)).descendants =
      (ofNodes front).descendants ++ (ofNodes back).descendants := by
  induction front with
  | nil => rfl
  | cons n front ih => cases n <;> simp [ofNodes, descendants, ih]

/-- The descendants with a name among some nodes with an element between. -/
theorem filter_descendants_ofNodes (name : String) (before : List Node) (e : Element)
    (after : List Node) :
    (ofNodes (before ++ .element e :: after)).descendants.filter (·.name = name) =
      (ofNodes before).descendants.filter (·.name = name) ++
        ((if e.name = name then [e] else []) ++
          (e.named name ++ (ofNodes after).descendants.filter (·.name = name))) := by
  rw [descendants_ofNodes_append, ofNodes, descendants, List.filter_append, List.filter_cons,
    List.filter_append, Element.named]
  by_cases h : e.name = name
  · rw [if_pos h, if_pos (decide_eq_true h)]
    rfl
  · rw [if_neg h, if_neg (by simpa using h)]
    rfl

variable {name : String} {e e' : Element} {c c' : Content}

/-- One descendant with the name is replaced, and the others are what and where they were. -/
theorem Replaced.named (h : c.Replaced name e e' c') (hname : e.name = name)
    (hname' : e'.name = name) (hinner : e.named name = []) (hinner' : e'.named name = []) :
    ∃ front back, c.descendants.filter (·.name = name) = front ++ e :: back ∧
      c'.descendants.filter (·.name = name) = front ++ e' :: back := by
  induction h with
  | here before after =>
      refine ⟨(ofNodes before).descendants.filter (·.name = name),
        (ofNodes after).descendants.filter (·.name = name), ?_, ?_⟩
      · rw [filter_descendants_ofNodes, if_pos hname, hinner]
        rfl
      · rw [filter_descendants_ofNodes, if_pos hname', hinner']
        rfl
  | @inside before after outer content houter _ ih =>
      obtain ⟨front, back, hfront, hback⟩ := ih
      refine ⟨(ofNodes before).descendants.filter (·.name = name) ++ front,
        back ++ (ofNodes after).descendants.filter (·.name = name), ?_, ?_⟩
      · rw [filter_descendants_ofNodes, if_neg houter, Element.named, hfront]
        simp
      · rw [filter_descendants_ofNodes, if_neg houter, Element.named, hback]
        simp

/-- One child is replaced, or its content is the one in which the replacement took place. -/
theorem Replaced.elements (h : c.Replaced name e e' c') :
    ∃ front back child child', c.elements = front ++ child :: back ∧
      c'.elements = front ++ child' :: back ∧
      (child = e ∧ child' = e' ∨ Element.Replaced name e e' child child') := by
  cases h with
  | here before after =>
      refine ⟨(ofNodes before).elements, (ofNodes after).elements, e, e', ?_, ?_, .inl ⟨rfl, rfl⟩⟩
      · rw [elements_ofNodes_append, ofNodes, Content.elements]
      · rw [elements_ofNodes_append, ofNodes, Content.elements]
  | @inside before after outer content houter h =>
      refine ⟨(ofNodes before).elements, (ofNodes after).elements, outer, { outer with content },
        ?_, ?_, .inr (.inside houter h)⟩
      · rw [elements_ofNodes_append, ofNodes, Content.elements]
      · rw [elements_ofNodes_append, ofNodes, Content.elements]

end Content

/-- Where `p` does not tell the two apart, the one that replaces the other is found instead of it,
or neither is found. -/
theorem find?_replaced {α : Type} {p : α → Bool} {a a' : α} (h : p a' = p a)
    (front back : List α) :
    (front ++ a' :: back).find? p = (front ++ a :: back).find? p ∨
      (front ++ a :: back).find? p = some a ∧ (front ++ a' :: back).find? p = some a' := by
  simp only [List.find?_append, List.find?_cons, h]
  cases front.find? p with
  | some b => exact .inl rfl
  | none =>
      cases p a with
      | true => exact .inr ⟨rfl, rfl⟩
      | false => exact .inl rfl

namespace Element

variable {name other : String} {e e' outer outer' : Element}

theorem Replaced.named (h : Replaced name e e' outer outer') (hname : e.name = name)
    (hname' : e'.name = name) (hinner : e.named name = []) (hinner' : e'.named name = []) :
    ∃ front back, outer.named name = front ++ e :: back ∧
      outer'.named name = front ++ e' :: back := by
  cases h with
  | inside _ h => exact h.named hname hname' hinner hinner'

/-- A child with a local name that the two elements do not have is what it was, or the replacement
took place inside. -/
theorem Replaced.childLocal? (h : Replaced name e e' outer outer') (hname : e.localName ≠ other)
    (hname' : e'.localName = e.localName) :
    outer'.childLocal? other = outer.childLocal? other ∨
      ∃ child child', outer.childLocal? other = some child ∧
        outer'.childLocal? other = some child' ∧ Replaced name e e' child child' := by
  cases h with
  | inside _ h =>
      obtain ⟨front, back, child, child', hchildren, hchildren', hcases⟩ := h.elements
      have hlocal : child'.localName = child.localName := by
        rcases hcases with ⟨rfl, rfl⟩ | ⟨_, _⟩
        · exact hname'
        · rfl
      have hsame : decide (child'.localName = other) = decide (child.localName = other) := by
        rw [hlocal]
      rw [Element.childLocal?, Element.childLocal?, children, children, hchildren, hchildren']
      refine (find?_replaced hsame front back).imp_right fun ⟨hfound, hfound'⟩ => ?_
      refine ⟨child, child', hfound, hfound', hcases.resolve_left ?_⟩
      rintro ⟨rfl, -⟩
      exact hname (by simpa using List.find?_some hfound)

theorem Replaced.attributes_eq (h : Replaced name e e' outer outer') :
    outer'.attributes = outer.attributes := by
  cases h with
  | inside _ _ => rfl

end Element

end MetadataHarvest.Markup
