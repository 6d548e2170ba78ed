import MetadataHarvest.Markup.Element
import Mathlib.Data.List.Forall2

/-!
# Other prefixes

An element can be given another prefix, and then it declares other namespaces. The relations here
say which elements of a tree may differ in this way: the element itself, all its children, or the
children below those with a certain name. What is looked up by local name is found in both trees
or in neither.
-/

namespace MetadataHarvest.Markup

/-- Whether an attribute with this name declares a namespace. -/
def declaresNamespace (name : String) : Bool :=
  name = "xmlns" || "xmlns:".toList.isPrefixOf name.toList

/-- Attributes without the declarations of namespaces. -/
def undeclared (attributes : List (String × String)) : List (String × String) :=
  attributes.filter fun (key, _) => !declaresNamespace key

/-- A name is looked up in what a filter leaves when the filter leaves all that has the name. -/
theorem lookup_filter {p : String × String → Bool} {name : String}
    (hp : ∀ value, p (name, value) = true) (attributes : List (String × String)) :
    (attributes.filter p).lookup name = attributes.lookup name := by
  induction attributes with
  | nil => rfl
  | cons pair attributes ih =>
      obtain ⟨key, value⟩ := pair
      rw [List.filter_cons, List.lookup_cons]
      split
      · rw [List.lookup_cons, ih]
      · next hpair =>
          have hne : name ≠ key := by
            rintro rfl
            exact hpair (hp value)
          rw [ih, beq_false_of_ne hne]

theorem lookup_undeclared (attributes : List (String × String)) {name : String}
    (hname : declaresNamespace name = false) :
    (undeclared attributes).lookup name = attributes.lookup name :=
  lookup_filter (fun _ => by simp [hname]) attributes

/-- Contents with the same character data and, in the places of the elements, elements that `R`
relates. -/
inductive Content.Each (R : Element → Element → Prop) : Content → Content → Prop
  | nil : Each R .nil .nil
  | text (value : String) {rest rest' : Content} : Each R rest rest' →
    Each R (.text value rest) (.text value rest')
  | element {e e' : Element} {rest rest' : Content} : R e e' → Each R rest rest' →
    Each R (.element e.name e.attributes e.content rest)
      (.element e'.name e'.attributes e'.content rest')

/-- The second element is the first one with another prefix and other declarations of namespaces
at most, and contents that `inside` relates. -/
structure Element.Reprefixed (inside : Content → Content → Prop) (e e' : Element) : Prop where
  localName : e'.localName = e.localName
  attributes : undeclared e'.attributes = undeclared e.attributes
  content : inside e.content e'.content

/-- The two elements are related by `R` if this is their local name, and otherwise they differ in
the prefix and in declarations of namespaces at most. -/
structure Element.Within (name : String) (R : Element → Element → Prop) (e e' : Element) :
    Prop where
  localName : e'.localName = e.localName
  named : e.localName = name → R e e'
  other : e.localName ≠ name → e.Reprefixed Eq e'

section Reflexive

variable {R : Element → Element → Prop} {inside : Content → Content → Prop} {name : String}

theorem Content.Each.refl (hR : ∀ e, R e e) (c : Content) : c.Each R c := by
  induction c with
  | nil => exact .nil
  | text value rest ih => exact .text value ih
  | element name attributes children rest _ ih =>
      exact .element (hR ⟨name, attributes, children⟩) ih

theorem Element.Reprefixed.refl (hinside : ∀ c, inside c c) (e : Element) :
    e.Reprefixed inside e :=
  ⟨rfl, rfl, hinside e.content⟩

theorem Element.Within.refl (hR : ∀ e, R e e) (e : Element) : e.Within name R e :=
  ⟨rfl, fun _ => hR e, fun _ => .refl (fun _ => rfl) e⟩

end Reflexive

theorem Element.Within.of_named {name : String} {R : Element → Element → Prop} {e e' : Element}
    (h : R e e') (hname : e.localName = name) (hname' : e'.localName = name) :
    e.Within name R e' :=
  ⟨hname'.trans hname.symm, fun _ => h, fun hne => absurd hname hne⟩

/-- Where `p` does not tell related elements of two lists apart, it keeps related ones. -/
theorem rel_filter {α : Type} {R S : α → α → Prop} {p : α → Bool} {as bs : List α}
    (hp : ∀ a b, R a b → p b = p a) (hS : ∀ a b, R a b → p a = true → S a b)
    (h : List.Forall₂ R as bs) : List.Forall₂ S (as.filter p) (bs.filter p) := by
  induction h with
  | nil => exact .nil
  | @cons a b as bs hab _ ih =>
      rw [List.filter_cons, List.filter_cons, hp a b hab]
      cases hpa : p a with
      | true => exact .cons (hS a b hab hpa) ih
      | false => exact ih

theorem rel_head? {α : Type} {S : α → α → Prop} {as bs : List α} (h : List.Forall₂ S as bs) :
    Option.Rel S as.head? bs.head? := by
  cases h with
  | nil => exact .none
  | cons hab _ => exact .some hab

theorem Content.Each.elements {R : Element → Element → Prop} {c c' : Content} (h : c.Each R c') :
    List.Forall₂ R c.elements c'.elements := by
  induction h with
  | nil => exact .nil
  | text value _ ih => exact ih
  | element hR _ ih => exact .cons hR ih

namespace Element

variable {R : Element → Element → Prop} {inside : Content → Content → Prop} {e e' : Element}
  {name other : String}

theorem Reprefixed.attribute?_eq (h : e.Reprefixed inside e')
    (hname : declaresNamespace name = false) : e'.attribute? name = e.attribute? name := by
  rw [attribute?, ← lookup_undeclared e'.attributes hname, h.attributes,
    lookup_undeclared e.attributes hname, attribute?]

theorem Reprefixed.text_eq (h : e.Reprefixed Eq e') : e'.text = e.text := by
  rw [text, text, h.content]

/-- A child is the first one with its local name. -/
theorem rel_childLocal?
    (h : List.Forall₂ R (e.children.filter (·.localName = name))
      (e'.children.filter (·.localName = name))) :
    Option.Rel R (e.childLocal? name) (e'.childLocal? name) := by
  rw [childLocal?, childLocal?, ← List.head?_filter, ← List.head?_filter]
  exact rel_head? h

theorem childLocal?_reprefixed (h : e.content.Each (Reprefixed inside) e'.content)
    (name : String) :
    Option.Rel (Reprefixed inside) (e.childLocal? name) (e'.childLocal? name) :=
  rel_childLocal? (rel_filter (fun a b hab => by rw [hab.localName]) (fun a b hab _ => hab)
    h.elements)

section Within

variable (h : e.content.Each (Within name R) e'.content)

include h

theorem filter_named :
    List.Forall₂ R (e.children.filter (·.localName = name))
      (e'.children.filter (·.localName = name)) :=
  rel_filter (fun a b hab => by rw [hab.localName])
    (fun a b hab ha => hab.named (of_decide_eq_true ha)) h.elements

theorem filter_other (hne : other ≠ name) :
    List.Forall₂ (Reprefixed Eq) (e.children.filter (·.localName = other))
      (e'.children.filter (·.localName = other)) :=
  rel_filter (fun a b hab => by rw [hab.localName])
    (fun a b hab ha => hab.other (by rwa [of_decide_eq_true ha])) h.elements

theorem childLocal?_named : Option.Rel R (e.childLocal? name) (e'.childLocal? name) :=
  rel_childLocal? (filter_named h)

theorem childLocal?_other (hne : other ≠ name) :
    Option.Rel (Reprefixed Eq) (e.childLocal? other) (e'.childLocal? other) :=
  rel_childLocal? (filter_other h hne)

end Within

end Element

end MetadataHarvest.Markup
