import MetadataHarvest.Proofs.Markup.Selection

/-!
# Descendants by name

The descendants of an element can be listed in document order, each with the names of the
elements in which it stands. A selector takes from this list those that have the last of its
names and stand in elements with the other ones, in order and with any gaps.
-/

namespace MetadataHarvest.Markup

namespace Content

/-- The elements at any depth, in document order. -/
def descendants : Content → List Element
  | nil => []
  | text _ rest => rest.descendants
  | element name attributes children rest =>
    ⟨name, attributes, children⟩ :: (children.descendants ++ rest.descendants)

/-- The elements at any depth, in document order, each with the names of those in which it stands,
outermost first and after the names `above`. -/
def placed (above : List String) : Content → List (List String × Element)
  | nil => []
  | text _ rest => rest.placed above
  | element name attributes children rest =>
    (above, ⟨name, attributes, children⟩) ::
      (children.placed (above ++ [name]) ++ rest.placed above)

theorem map_snd_placed (c : Content) (above : List String) :
    (c.placed above).map (·.2) = c.descendants := by
  induction c generalizing above with
  | nil => rfl
  | text value rest ih => exact ih above
  | element name attributes children rest ihChildren ihRest =>
      rw [placed, descendants, List.map_cons, List.map_append, ihChildren, ihRest]

/-- A selector goes through the elements in document order and looks at the names above each. -/
theorem select_eq_filter_placed (s : Selector) (c : Content) (above : List String) :
    c.select s above.reverse =
      ((c.placed above).filter fun d => s.admits d.1.reverse d.2.name).map (·.2) := by
  induction c generalizing above with
  | nil => rfl
  | text value rest ih => exact ih above
  | element name attributes children rest ihChildren ihRest =>
      have hbelow := ihChildren (above ++ [name])
      rw [List.reverse_append, List.reverse_singleton, List.singleton_append] at hbelow
      rw [select, placed, List.filter_cons, hbelow, ihRest]
      split
      · rw [List.map_cons, List.filter_append, List.map_append]
      · rw [List.filter_append, List.map_append]

end Content

namespace Element

/-- The descendants with a name, in document order. -/
def named (e : Element) (name : String) : List Element :=
  e.content.descendants.filter (·.name = name)

/-- The descendants with a name that stand in elements with the names of `path`, in this order and
with any gaps. -/
def below (e : Element) (path : List String) (name : String) : List Element :=
  ((e.content.placed []).filter fun d => d.2.name = name ∧ path.Sublist d.1).map (·.2)

theorem below_nil (e : Element) (name : String) : e.below [] name = e.named name := by
  rw [named, ← Content.map_snd_placed e.content [], List.filter_map, below]
  simp [Function.comp_def]

variable {e : Element} {selector name : String} {path : List String}

/-- A selector takes the descendants that its names describe. -/
theorem select_eq_below (h : Selector.names selector = path ++ [name]) :
    e.select selector = e.below path name := by
  unfold select
  split
  · next hnone =>
      rw [Selector.ofText?_eq_none_iff.mp hnone] at h
      exact absurd h.symm (List.append_ne_nil_of_right_ne_nil _ (List.cons_ne_nil _ _))
  · next s hsome =>
      rw [Selector.names_of_ofText? hsome] at h
      rw [below, ← List.reverse_nil, Content.select_eq_filter_placed]
      congr 2
      funext d
      rw [Bool.eq_iff_iff, Selector.admits_iff, h, decide_eq_true_eq]
      constructor
      · rintro ⟨preceding, happend, hsub⟩
        obtain ⟨rfl, hname⟩ := List.append_inj' happend rfl
        exact ⟨(List.singleton_inj.mp hname).symm, hsub⟩
      · rintro ⟨rfl, hsub⟩
        exact ⟨path, rfl, hsub⟩

/-- A selector of one name takes the descendants with this name. -/
theorem select_eq_named (h : Selector.names selector = [name]) :
    e.select selector = e.named name := by
  rw [← below_nil]
  exact select_eq_below h

end Element

end MetadataHarvest.Markup
