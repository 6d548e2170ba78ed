import MetadataHarvest.Proofs.Markup.Selection
import Mathlib.Data.List.Forall2

/-!
# Elements in between

A run of neighbouring nodes, at any place in a tree, may be put into an element of its own. The
text of the tree is what it was, and a selector that does not name the new element selects what
it selected before, the new element possibly standing inside. What carries the proof is that an
ancestor whose name a selector does not want makes no difference to it.
-/

namespace MetadataHarvest.Markup

section Relation

variable (name : String) (attributes : List (String × String))

/-- The second content is the first one with a run of neighbouring nodes put into a new element
with this name and these attributes, at the top level or inside an element. -/
inductive Content.Enclosed : Content → Content → Prop
  | here (before run after : List Node) :
      Enclosed (.ofNodes (before ++ (run ++ after)))
        (.ofNodes (before ++ .element ⟨name, attributes, .ofNodes run⟩ :: after))
  | inside (before after : List Node) {e : Element} {content : Content}
      (h : Enclosed e.content content) :
      Enclosed (.ofNodes (before ++ .element e :: after))
        (.ofNodes (before ++ .element { e with content } :: after))

/-- The second element is the first one, or the first one with such a run inside. -/
inductive Element.MayEnclose (e : Element) : Element → Prop
  | same : MayEnclose e e
  | inside {content : Content} (h : e.content.Enclosed name attributes content) :
      MayEnclose e { e with content }

end Relation

namespace Content

theorem texts_ofNodes_append (front back : List Node) :
    (ofNodes (front ++ back)).texts = (ofNodes front).texts ++ (ofNodes back).texts := by
  induction front with
  | nil => rfl
  | cons n front ih => cases n <;> simp [ofNodes, texts, ih]

theorem elements_ofNodes_append (front back : List Node) :
    (ofNodes (front ++ back)).elements =
      (ofNodes front).elements ++ (ofNodes back).elements := by
  induction front with
  | nil => rfl
  | cons n front ih => cases n <;> simp [ofNodes, elements, ih]

/-- What is selected in the element at the front of some nodes, and after it. -/
theorem select_ofNodes_cons (s : Selector) (above : List String) (e : Element)
    (back : List Node) :
    (ofNodes (.element e :: back)).select s above =
      (if s.admits above e.name then [e] else []) ++
        (e.content.select s (e.name :: above) ++ (ofNodes back).select s above) := by
  rw [ofNodes, select]
  split <;> rfl

theorem select_ofNodes_append (s : Selector) (above : List String) (front back : List Node) :
    (ofNodes (front ++ back)).select s above =
      (ofNodes front).select s above ++ (ofNodes back).select s above := by
  induction front with
  | nil => rfl
  | cons n front ih =>
      cases n with
      | text value => exact ih
      | element e =>
          rw [List.cons_append, select_ofNodes_cons, select_ofNodes_cons, ih]
          simp only [List.append_assoc]

end Content

section Text

variable {name : String} {attributes : List (String × String)}

/-- All character data stays, in its order. -/
theorem Content.Enclosed.texts_eq {c c' : Content} (h : c.Enclosed name attributes c') :
    c'.texts = c.texts := by
  induction h with
  | here before run after =>
      simp only [texts_ofNodes_append, ofNodes, texts]
  | inside before after _ ih =>
      simp only [texts_ofNodes_append, ofNodes, texts, ih]

theorem Element.MayEnclose.text_eq {e e' : Element} (h : e.MayEnclose name attributes e') :
    e'.text = e.text := by
  cases h with
  | same => rfl
  | inside h => rw [text, text, Content.words, Content.words, h.texts_eq]

theorem Element.MayEnclose.attribute?_eq {e e' : Element}
    (h : e.MayEnclose name attributes e') (key : String) :
    e'.attribute? key = e.attribute? key := by
  cases h with
  | same => rfl
  | inside _ => rfl

end Text

namespace Selector

variable {name : String} {s : Selector} {above above' : List String}

/-- Whether a selector has no step with a name. -/
def Avoids (s : Selector) (name : String) : Prop := s.target ≠ name ∧ name ∉ s.ancestors

theorem avoids_of_names {selector : String} (hs : ofText? selector = some s)
    (h : name ∉ names selector) : s.Avoids name := by
  rw [names_of_ofText? hs] at h
  simp only [List.mem_append, List.mem_reverse, List.mem_singleton, not_or] at h
  exact ⟨Ne.symm h.2, h.1⟩

/-- Wanted names occur in a list of ancestors when they occur in it without those that have
another name. -/
theorem sublist_filter_iff {wanted : List String} (h : name ∉ wanted) :
    wanted.Sublist (above.filter (· ≠ name)) ↔ wanted.Sublist above := by
  constructor
  · intro hsub
    exact hsub.trans List.filter_sublist
  · intro hsub
    have hkept : wanted.filter (· ≠ name) = wanted := by
      rw [List.filter_eq_self]
      intro want hmem
      rw [decide_eq_true_eq]
      rintro rfl
      exact h hmem
    rw [← hkept]
    exact hsub.filter _

/-- Ancestors that differ in a name which the selector avoids admit the same elements. -/
theorem admits_congr (hs : s.Avoids name)
    (h : above.filter (· ≠ name) = above'.filter (· ≠ name)) (target : String) :
    s.admits above target = s.admits above' target := by
  have hreaches : reaches s.ancestors above = reaches s.ancestors above' := by
    rw [Bool.eq_iff_iff, reaches_iff_sublist, reaches_iff_sublist,
      ← sublist_filter_iff hs.2, h, sublist_filter_iff hs.2]
  rw [admits, admits, hreaches]

theorem admits_of_avoids (hs : s.Avoids name) : s.admits above name = false := by
  rw [admits, decide_eq_false hs.1, Bool.false_and]

end Selector

namespace Content

open Selector Element

variable {name : String} {attributes : List (String × String)} {s : Selector}

theorem select_congr (hs : s.Avoids name) (c : Content) {above above' : List String}
    (h : above.filter (· ≠ name) = above'.filter (· ≠ name)) :
    c.select s above = c.select s above' := by
  induction c generalizing above above' with
  | nil => rfl
  | text value rest ih => exact ih h
  | element n as children rest ihChildren ihRest =>
      have hbelow : (n :: above).filter (· ≠ name) = (n :: above').filter (· ≠ name) := by
        rw [List.filter_cons, List.filter_cons, h]
      simp only [select, ihChildren hbelow, ihRest h, admits_congr hs h]

/-- Nothing is selected for the new element itself, and below it the same as without it. -/
theorem select_enclosing (hs : s.Avoids name) (above : List String) (run back : List Node) :
    (ofNodes (.element ⟨name, attributes, .ofNodes run⟩ :: back)).select s above =
      (ofNodes (run ++ back)).select s above := by
  have hbelow : (ofNodes run).select s (name :: above) = (ofNodes run).select s above :=
    select_congr hs _ (by simp)
  rw [select_ofNodes_cons, admits_of_avoids hs, hbelow, select_ofNodes_append]
  rfl

theorem forall₂_mayEnclose_refl (es : List Element) :
    List.Forall₂ (MayEnclose name attributes) es es :=
  List.forall₂_same.mpr fun _ _ => .same

/-- A selector that avoids the new element selects the same elements, one for one. -/
theorem Enclosed.select_forall₂ (hs : s.Avoids name) {c c' : Content}
    (h : c.Enclosed name attributes c') (above : List String) :
    List.Forall₂ (MayEnclose name attributes) (c.select s above) (c'.select s above) := by
  induction h generalizing above with
  | here before run after =>
      rw [select_ofNodes_append s above before (_ :: after), select_enclosing hs,
        ← select_ofNodes_append]
      exact forall₂_mayEnclose_refl _
  | @inside before after e content h ih =>
      simp only [select_ofNodes_append, select_ofNodes_cons]
      apply List.rel_append (forall₂_mayEnclose_refl _)
      apply List.rel_append
      · split
        · exact .cons (.inside h) .nil
        · exact .nil
      · exact List.rel_append (ih _) (forall₂_mayEnclose_refl _)

end Content

namespace Element

variable {name : String} {attributes : List (String × String)} {e e' : Element}
  {selector : String}

theorem MayEnclose.select_forall₂ (h : e.MayEnclose name attributes e')
    (hname : name ∉ Selector.names selector) :
    List.Forall₂ (MayEnclose name attributes) (e.select selector) (e'.select selector) := by
  cases h with
  | same => exact Content.forall₂_mayEnclose_refl _
  | inside h =>
      unfold select
      cases hs : Selector.ofText? selector with
      | none => exact .nil
      | some s => exact h.select_forall₂ (Selector.avoids_of_names hs hname) []

section Taken

variable {α : Type} {f : Element → Option α}
  (hf : ∀ d d', d.MayEnclose name attributes d' → f d' = f d)

include hf in
theorem filterMap_eq_of_forall₂ {es es' : List Element}
    (h : List.Forall₂ (MayEnclose name attributes) es es') :
    es'.filterMap f = es.filterMap f := by
  induction h with
  | nil => rfl
  | cons hd _ ih => rw [List.filterMap_cons, List.filterMap_cons, hf _ _ hd, ih]

include hf in
theorem bind_head?_eq_of_forall₂ {es es' : List Element}
    (h : List.Forall₂ (MayEnclose name attributes) es es') :
    es'.head?.bind f = es.head?.bind f := by
  cases h with
  | nil => rfl
  | cons hd _ => exact hf _ _ hd

include hf in
/-- What is taken from each selected element is the same, when it does not change with a new
element inside. -/
theorem MayEnclose.filterMap_select_eq (h : e.MayEnclose name attributes e')
    (hname : name ∉ Selector.names selector) :
    (e'.select selector).filterMap f = (e.select selector).filterMap f :=
  filterMap_eq_of_forall₂ hf (h.select_forall₂ hname)

include hf in
theorem MayEnclose.bind_selectFirst?_eq (h : e.MayEnclose name attributes e')
    (hname : name ∉ Selector.names selector) :
    (e'.selectFirst? selector).bind f = (e.selectFirst? selector).bind f :=
  bind_head?_eq_of_forall₂ hf (h.select_forall₂ hname)

end Taken

end Element

end MetadataHarvest.Markup
