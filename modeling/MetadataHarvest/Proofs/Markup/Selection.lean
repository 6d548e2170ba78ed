import MetadataHarvest.Markup.Selector

/-!
# What a selector selects

A descendant is known by its position: the index of the node to take at each level on the way
down. A selector selects exactly the positions whose element has the last of its names and
whose ancestors, in order and with any gaps, have the others, each position once and in
document order, which is the lexicographic order of positions.
-/

namespace MetadataHarvest.Markup

namespace Content

variable {c rest children : Content} {name value : String}
  {attributes : List (String × String)} {i : Nat} {p : List Nat}

/-- The elements on the way down to a position, the one that stands there being the last; none
where no element stands. -/
def way? (c : Content) : List Nat → Option (List Element)
  | [] => some []
  | i :: p =>
    match c.nodes[i]? with
    | some (.element e) => (e.content.way? p).map (e :: ·)
    | _ => none

@[simp] theorem way?_nil : c.way? [] = some [] := rfl

@[simp] theorem way?_nil_cons : nil.way? (i :: p) = none := rfl

@[simp] theorem way?_text_zero : (text value rest).way? (0 :: p) = none := rfl

@[simp] theorem way?_text_succ :
    (text value rest).way? ((i + 1) :: p) = rest.way? (i :: p) := rfl

@[simp] theorem way?_element_zero :
    (element name attributes children rest).way? (0 :: p) =
      (children.way? p).map (⟨name, attributes, children⟩ :: ·) := rfl

@[simp] theorem way?_element_succ :
    (element name attributes children rest).way? ((i + 1) :: p) = rest.way? (i :: p) := rfl

/-- A way has one element for each level. -/
theorem length_of_way? {way : List Element} (h : c.way? p = some way) :
    way.length = p.length := by
  induction p generalizing c way with
  | nil =>
      obtain rfl := Option.some.inj h
      rfl
  | cons i p ih =>
      rw [way?] at h
      split at h
      · obtain ⟨deeper, hdeeper, rfl⟩ := Option.map_eq_some_iff.mp h
        rw [List.length_cons, List.length_cons, ih hdeeper]
      · cases h

/-- The element at a position below the content. -/
def descendant? (c : Content) (p : List Nat) : Option Element :=
  (c.way? p).bind (·.getLast?)

/-- The same position when one more node stands in front. -/
def shift : List Nat → List Nat
  | [] => []
  | i :: p => (i + 1) :: p

theorem shift_lt_shift {q : List Nat} (h : p < q) : shift p < shift q := by
  cases p with
  | nil =>
      cases q with
      | nil => exact absurd h (List.lt_irrefl [])
      | cons j q => exact List.nil_lt_cons _ _
  | cons i p =>
      cases q with
      | nil => exact absurd h (List.not_lt_nil _)
      | cons j q =>
          rw [List.cons_lt_cons_iff] at h
          rw [shift, shift, List.cons_lt_cons_iff, Nat.succ_lt_succ_iff, Nat.succ_inj]
          exact h

theorem zero_cons_lt_shift {q : List Nat} (h : q ≠ []) : 0 :: p < shift q := by
  cases q with
  | nil => exact absurd rfl h
  | cons j q => exact List.cons_lt_cons_iff.mpr (.inl j.succ_pos)

theorem zero_lt_zero_cons (h : p ≠ []) : [0] < 0 :: p := by
  cases p with
  | nil => exact absurd rfl h
  | cons j q => exact List.cons_lt_cons_iff.mpr (.inr ⟨rfl, List.nil_lt_cons _ _⟩)

@[simp] theorem nil_mem_map_shift {ps : List (List Nat)} : [] ∈ ps.map shift ↔ [] ∈ ps := by
  simp only [List.mem_map]
  constructor
  · rintro ⟨q, hq, hshift⟩
    cases q with
    | nil => exact hq
    | cons j q => cases hshift
  · intro h
    exact ⟨[], h, rfl⟩

@[simp] theorem zero_cons_not_mem_map_shift {ps : List (List Nat)} :
    0 :: p ∉ ps.map shift := by
  simp only [List.mem_map]
  rintro ⟨q, -, hshift⟩
  cases q with
  | nil => cases hshift
  | cons j q => cases hshift

@[simp] theorem succ_cons_mem_map_shift {ps : List (List Nat)} :
    (i + 1) :: p ∈ ps.map shift ↔ i :: p ∈ ps := by
  simp only [List.mem_map]
  constructor
  · rintro ⟨q, hq, hshift⟩
    cases q with
    | nil => cases hshift
    | cons j q =>
        cases hshift
        exact hq
  · intro h
    exact ⟨i :: p, h, rfl⟩

theorem descendant?_text_shift : (text value rest).descendant? (shift p) = rest.descendant? p := by
  cases p with
  | nil => rfl
  | cons i p => rfl

theorem descendant?_element_shift :
    (element name attributes children rest).descendant? (shift p) = rest.descendant? p := by
  cases p with
  | nil => rfl
  | cons i p => rfl

theorem descendant?_element_zero_cons (h : p ≠ []) :
    (element name attributes children rest).descendant? (0 :: p) = children.descendant? p := by
  simp only [descendant?, way?_element_zero]
  cases hway : children.way? p with
  | none => rfl
  | some way =>
      cases way with
      | nil => exact absurd (List.length_eq_zero_iff.mp (length_of_way? hway).symm) h
      | cons d way => rfl

/-- The positions that are selected below the ancestors `above`. -/
def selected (s : Selector) (above : List String) : Content → List (List Nat)
  | nil => []
  | text _ rest => (rest.selected s above).map shift
  | element name _ children rest =>
    (if s.admits above name then [[0]] else []) ++
      ((children.selected s (name :: above)).map (0 :: ·) ++ (rest.selected s above).map shift)

variable {s : Selector} {above : List String}

theorem nil_not_mem_selected : [] ∉ c.selected s above := by
  induction c generalizing above with
  | nil => simp [selected]
  | text value rest ih => simpa [selected] using ih
  | element name attributes children rest _ ih =>
      simp only [selected, List.mem_append, nil_mem_map_shift, ih, or_false]
      rintro (h | h)
      · split at h <;> simp at h
      · simp at h

theorem zero_cons_mem_selected :
    0 :: p ∈ (element name attributes children rest).selected s above ↔
      (p = [] ∧ s.admits above name = true) ∨ p ∈ children.selected s (name :: above) := by
  simp only [selected, List.mem_append, zero_cons_not_mem_map_shift, or_false]
  by_cases h : s.admits above name = true <;> simp [h]

theorem succ_cons_mem_selected :
    (i + 1) :: p ∈ (element name attributes children rest).selected s above ↔
      i :: p ∈ rest.selected s above := by
  simp only [selected, List.mem_append, succ_cons_mem_map_shift]
  by_cases h : s.admits above name = true <;> simp [h]

/-- A position is selected when the selector admits the names on the way down to it. -/
theorem mem_selected_iff :
    p ∈ c.selected s above ↔ ∃ way d, c.way? p = some (way ++ [d]) ∧
      s.admits ((way.map (·.name)).reverse ++ above) d.name = true := by
  induction c generalizing above p with
  | nil => cases p <;> simp [selected]
  | text value rest ih =>
      match p with
      | [] => simpa [selected] using nil_not_mem_selected
      | 0 :: p => simp [selected]
      | (i + 1) :: p => simpa [selected] using ih
  | element name attributes children rest ihChildren ihRest =>
      match p with
      | [] => simpa using nil_not_mem_selected
      | (i + 1) :: p => simpa [succ_cons_mem_selected] using ihRest
      | 0 :: p =>
          rw [zero_cons_mem_selected, ihChildren]
          constructor
          · rintro (⟨rfl, hadmits⟩ | ⟨way, d, hway, hadmits⟩)
            · exact ⟨[], ⟨name, attributes, children⟩, rfl, hadmits⟩
            · refine ⟨⟨name, attributes, children⟩ :: way, d, ?_, ?_⟩
              · rw [way?_element_zero, hway]
                rfl
              · simpa using hadmits
          · rintro ⟨way, d, hway, hadmits⟩
            rw [way?_element_zero, Option.map_eq_some_iff] at hway
            obtain ⟨deeper, hdeeper, hcons⟩ := hway
            cases way with
            | nil =>
                obtain ⟨rfl, rfl⟩ := List.cons.inj hcons
                exact .inl ⟨List.length_eq_zero_iff.mp (length_of_way? hdeeper).symm, hadmits⟩
            | cons e way =>
                obtain ⟨rfl, rfl⟩ := List.cons.inj hcons
                refine .inr ⟨way, d, hdeeper, ?_⟩
                simpa using hadmits

/-- Selected positions are in document order, and none of them is there twice. -/
theorem pairwise_selected (c : Content) (above : List String) :
    (c.selected s above).Pairwise (· < ·) := by
  induction c generalizing above with
  | nil => exact .nil
  | text value rest ih => exact (ih above).map shift fun _ _ => shift_lt_shift
  | element name attributes children rest ihChildren ihRest =>
      have hrest : ∀ q ∈ rest.selected s above, q ≠ [] := fun q hq hnil =>
        nil_not_mem_selected (hnil ▸ hq)
      have hdeeper : ((children.selected s (name :: above)).map (0 :: ·) ++
          (rest.selected s above).map shift).Pairwise (· < ·) := by
        rw [List.pairwise_append, List.forall_mem_map]
        refine ⟨(ihChildren _).map _ fun p q h => ?_,
          (ihRest above).map _ fun _ _ => shift_lt_shift, fun p _ => ?_⟩
        · exact List.cons_lt_cons_iff.mpr (.inr ⟨rfl, h⟩)
        · rw [List.forall_mem_map]
          exact fun q hq => zero_cons_lt_shift (hrest q hq)
      rw [selected]
      split
      · rw [List.singleton_append, List.pairwise_cons, List.forall_mem_append,
          List.forall_mem_map, List.forall_mem_map]
        refine ⟨⟨fun p hp => ?_, fun q hq => zero_cons_lt_shift (hrest q hq)⟩, hdeeper⟩
        exact zero_lt_zero_cons fun hnil => nil_not_mem_selected (hnil ▸ hp)
      · exact hdeeper

/-- What is selected stands at the selected positions. -/
theorem select_eq_map_selected (c : Content) (above : List String) :
    (c.select s above).map some = (c.selected s above).map c.descendant? := by
  induction c generalizing above with
  | nil => rfl
  | text value rest ih =>
      rw [select, selected, ih, List.map_map]
      exact List.map_congr_left fun p _ => descendant?_text_shift.symm
  | element name attributes children rest ihChildren ihRest =>
      have hchildren : (children.select s (name :: above)).map some =
          ((children.selected s (name :: above)).map (0 :: ·)).map
            (element name attributes children rest).descendant? := by
        rw [ihChildren, List.map_map]
        refine List.map_congr_left fun p hp => ?_
        exact (descendant?_element_zero_cons fun hnil =>
          nil_not_mem_selected (hnil ▸ hp)).symm
      have hrest : (rest.select s above).map some =
          ((rest.selected s above).map shift).map
            (element name attributes children rest).descendant? := by
        rw [ihRest, List.map_map]
        exact List.map_congr_left fun p _ => descendant?_element_shift.symm
      simp only [select, selected, List.map_append, ← hchildren, ← hrest]
      split
      · simp [descendant?]
      · simp

end Content

namespace Selector

/-- The names in the text of a selector, the last one being that of what is selected. -/
def names (selector : String) : List String := (Text.words selector.toList).map String.ofList

/-- Taking the innermost ancestor that fits each name misses nothing. -/
theorem reaches_iff_sublist {wanted above : List String} :
    reaches wanted above = true ↔ wanted.Sublist above := by
  rw [← List.isSublist_iff_sublist]
  fun_induction reaches wanted above with
  | case1 => simp
  | case2 => simp
  | case3 wanted name above ih => simpa [List.isSublist] using ih
  | case4 want wanted name above hne ih => simpa [List.isSublist, hne] using ih

theorem admits_iff {s : Selector} {above : List String} {name : String} :
    s.admits above.reverse name = true ↔
      ∃ preceding, s.ancestors.reverse ++ [s.target] = preceding ++ [name] ∧
        preceding.Sublist above := by
  simp only [admits, Bool.and_eq_true, decide_eq_true_eq, reaches_iff_sublist]
  constructor
  · rintro ⟨rfl, hsub⟩
    exact ⟨s.ancestors.reverse, rfl, List.reverse_reverse above ▸ hsub.reverse⟩
  · rintro ⟨preceding, happend, hsub⟩
    obtain ⟨rfl, hname⟩ := List.append_inj' happend rfl
    exact ⟨List.singleton_inj.mp hname, List.reverse_reverse s.ancestors ▸ hsub.reverse⟩

theorem ofText?_eq_none_iff {selector : String} :
    ofText? selector = none ↔ names selector = [] := by
  rw [ofText?, names]
  cases hreverse : ((Text.words selector.toList).map String.ofList).reverse with
  | nil => exact iff_of_true rfl (List.reverse_eq_nil_iff.mp hreverse)
  | cons target ancestors =>
      refine iff_of_false (Option.some_ne_none _) fun hnil => ?_
      rw [hnil] at hreverse
      cases hreverse

theorem names_of_ofText? {selector : String} {s : Selector} (h : ofText? selector = some s) :
    names selector = s.ancestors.reverse ++ [s.target] := by
  unfold ofText? at h
  split at h
  · cases h
  · next target ancestors hreverse =>
      obtain rfl := Option.some.inj h
      rw [names, ← List.reverse_reverse (List.map _ _), hreverse, List.reverse_cons]

end Selector

namespace Element

/-- A selector selects, once each and in document order, exactly the descendants that have the
last of its names and among whose ancestors below the searched element the names before it
occur in order, with any gaps. Without a name it selects nothing. -/
theorem select_positions (e : Element) (selector : String) :
    (Selector.names selector = [] → e.select selector = []) ∧
      ∃ positions : List (List Nat),
        positions.Pairwise (· < ·) ∧
        (∀ p, p ∈ positions ↔ ∃ above d, e.content.way? p = some (above ++ [d]) ∧
          ∃ preceding, Selector.names selector = preceding ++ [d.name] ∧
            preceding.Sublist (above.map (·.name))) ∧
        (e.select selector).map some = positions.map e.content.descendant? := by
  unfold select
  split
  · next hnone =>
      have hnames := Selector.ofText?_eq_none_iff.mp hnone
      refine ⟨fun _ => rfl, [], .nil, fun p => ?_, rfl⟩
      simp [hnames]
  · next s hsome =>
      have hnames := Selector.names_of_ofText? hsome
      refine ⟨fun hnil => ?_, e.content.selected s [], e.content.pairwise_selected [],
        fun p => ?_, e.content.select_eq_map_selected []⟩
      · simp [hnames] at hnil
      · simp only [Content.mem_selected_iff, List.append_nil, Selector.admits_iff, hnames]

/-- With one name nested in itself. -/
def nestedSample : Element :=
  ⟨"r", [], .element "a" [] (.element "a" [] (.element "b" [] .nil .nil) .nil) .nil⟩

theorem select_positions_blank :
    Selector.names " " = [] ∧ nestedSample.select " " = [] := by
  have hnames : Selector.names " " = [] := by decide
  exact ⟨hnames, (select_positions nestedSample " ").1 hnames⟩

end Element

end MetadataHarvest.Markup
