import MetadataHarvest.Proofs.Protocol.Envelope
import MetadataHarvest.Proofs.Protocol.Namespaces

/-!
# Fields among other parts

The parts of an element are taken one after the other: its texts, the items of its list and its
fields are those among the parts, in order. Other elements are passed over, and what is known of
the element is the same with them, except that a list that goes on is over.
-/

namespace MetadataHarvest.Protocol

open Markup

/-- Whether a part is passed over where items are named `item` and other fields in `known`. -/
inductive IsPassed (item : Option String) (known : List String) : Part → Prop
  | text (value : String) : IsPassed item known (.text (some value))
  | element {name : String} {attributes : List Char} {parts : List Part}
      (hitem : item ≠ some (afterFirstColon name)) (hknown : afterFirstColon name ∉ known)
      (hbegins : parts.head? ≠ some (.text none)) :
      IsPassed item known (.element name attributes parts)

/-- Content before and after an element, in which no element is known. -/
structure Around (known : List String) where
  before : Content
  after : Content
  plain : before.isPlain = true ∧ after.isPlain = true
  merged : before.isMerged = true ∧ after.isMerged = true
  passed : ∀ e ∈ before.elements ++ after.elements, e.name ∉ known

/-- Nothing around an element. -/
def Around.nothing (known : List String) : Around known :=
  ⟨.nil, .nil, ⟨rfl, rfl⟩, ⟨rfl, rfl⟩, by simp [Content.elements]⟩

@[simp] theorem rawAttributes?_nil : rawAttributes? [] = some [] := by
  rw [rawAttributes?, RawAttribute.sequence?_nil]
  rfl

section Step

variable {item : Option String} {known : List String} {f : Fields}

/-- An element that is passed over ends a list. -/
theorem step?_passed {name : String} {attributes : List Char} {parts : List Part}
    (h : IsPassed item known (.element name attributes parts)) (hlisted : f.listed ≠ some name) :
    f.step? item known (.element name attributes parts) = some { f with listed := none } := by
  cases h with
  | element hitem hknown hbegins =>
      simp only [Fields.step?, if_neg hlisted, if_neg hitem, List.contains_iff_mem, if_neg hknown]
      split
      · next rest => exact absurd rfl hbegins
      · rfl

/-- Parts that are passed over leave everything else as it was. -/
theorem foldlM_passed {parts : List Part} (h : ∀ p ∈ parts, IsPassed item known p)
    (hlisted : f.listed = none) :
    ∃ texts, parts.foldlM (Fields.step? item known) f = some { f with texts } := by
  induction parts generalizing f with
  | nil => exact ⟨f.texts, rfl⟩
  | cons p parts ih =>
      rw [List.forall_mem_cons] at h
      rw [List.foldlM_cons]
      cases h.1 with
      | text value =>
          have hstep : f.step? item known (.text (some value)) =
              some { f with texts := f.texts ++ [value] } := by
            simp [Fields.step?, hlisted]
          rw [hstep]
          exact ih h.2 hlisted
      | element hitem hknown hbegins =>
          rw [step?_passed h.1 (by simp [hlisted])]
          obtain ⟨texts, htexts⟩ := ih h.2 (f := { f with listed := none }) rfl
          refine ⟨texts, htexts.trans ?_⟩
          rw [← hlisted]

end Step

section Taking

variable {item : Option String} {known : List String} {key : String} {f g : Fields} {p : Part}
  {parts : List Part} {i : Interior}

/-- Whether a part is an item of the list. -/
def isItem (item : Option String) : Part → Bool
  | .text _ => false
  | .element name _ _ => item = some (afterFirstColon name)

/-- What one more part can be for an element, and what its fields are then. -/
inductive Takes (item : Option String) (known : List String) (f : Fields) : Part → Fields → Prop
  | text (value : String) (hlisted : f.listed = none) :
      Takes item known f (.text (some value)) { f with texts := f.texts ++ [value] }
  | next {name : String} (attributes : List Char) (parts : List Part)
      (hlisted : f.listed = some name) :
      Takes item known f (.element name attributes parts)
        { f with items := f.items.map (· ++ [⟨attributes, parts⟩]) }
  | first {name : String} (attributes : List Char) (parts : List Part)
      (hlisted : f.listed ≠ some name) (hitem : item = some (afterFirstColon name))
      (hitems : f.items = none) :
      Takes item known f (.element name attributes parts)
        { f with items := some [⟨attributes, parts⟩], listed := some name }
  | single {name : String} (attributes : List Char) (parts : List Part)
      (hlisted : f.listed ≠ some name) (hitem : item ≠ some (afterFirstColon name))
      (hknown : afterFirstColon name ∈ known)
      (hnew : f.singles.lookup (afterFirstColon name) = none) :
      Takes item known f (.element name attributes parts)
        { f with
          singles := f.singles ++ [(afterFirstColon name, ⟨attributes, parts⟩)], listed := none }
  | passed {name : String} {attributes : List Char} {parts : List Part}
      (hlisted : f.listed ≠ some name)
      (h : IsPassed item known (.element name attributes parts)) :
      Takes item known f (.element name attributes parts) { f with listed := none }

theorem step?_eq_some_iff : f.step? item known p = some g ↔ Takes item known f p g := by
  constructor
  · intro h
    match p with
    | .text none => cases h
    | .text (some value) =>
        simp only [Fields.step?, Option.ite_none_left_eq_some, Option.some.injEq] at h
        obtain ⟨hlisted, rfl⟩ := h
        exact .text value (by simpa using hlisted)
    | .element name attributes parts =>
        simp only [Fields.step?] at h
        split at h
        · next hlisted =>
            obtain rfl := Option.some.inj h
            exact .next attributes parts hlisted
        · next hlisted =>
            split at h
            · next hitem =>
                rw [Option.ite_none_left_eq_some, Option.some.injEq] at h
                obtain ⟨hitems, rfl⟩ := h
                exact .first attributes parts hlisted hitem (by simpa using hitems)
            · next hitem =>
                split at h
                · next hknown =>
                    rw [Option.ite_none_left_eq_some, Option.some.injEq] at h
                    obtain ⟨hnew, rfl⟩ := h
                    exact .single attributes parts hlisted hitem (by simpa using hknown)
                      (Option.not_isSome_iff_eq_none.mp hnew)
                · next hknown =>
                    split at h
                    · cases h
                    · next hbegins =>
                        obtain rfl := Option.some.inj h
                        refine .passed hlisted (.element hitem (by simpa using hknown) ?_)
                        intro hhead
                        obtain ⟨rest, rfl⟩ := List.head?_eq_some_iff.mp hhead
                        exact hbegins rest rfl
  · intro h
    cases h with
    | text value hlisted => simp [Fields.step?, hlisted]
    | next attributes parts hlisted => simp [Fields.step?, hlisted]
    | first attributes parts hlisted hitem hitems =>
        simp only [Fields.step?, if_neg hlisted, if_pos hitem, hitems]
        rfl
    | single attributes parts hlisted hitem hknown hnew =>
        simp only [Fields.step?, if_neg hlisted, if_neg hitem, List.contains_iff_mem, if_pos hknown,
          hnew]
        rfl
    | passed hlisted h => exact step?_passed h hlisted

/-- A list that goes on has items, and its name is that of an item. -/
def Fields.IsValid (item : Option String) (f : Fields) : Prop :=
  ∀ name ∈ f.listed, item = some (afterFirstColon name) ∧ f.items.isSome = true

theorem Fields.isValid_empty (item : Option String) : Fields.empty.IsValid item := by
  intro name hname
  cases hname

theorem Takes.isValid (h : Takes item known f p g) (hvalid : f.IsValid item) :
    g.IsValid item := by
  cases h with
  | text value hlisted => exact hvalid
  | next attributes parts hlisted =>
      intro name hname
      obtain ⟨hitem, hitems⟩ := hvalid name hname
      exact ⟨hitem, by simpa using hitems⟩
  | first attributes parts hlisted hitem hitems =>
      intro name hname
      obtain rfl := Option.some.inj hname
      exact ⟨hitem, rfl⟩
  | single attributes parts hlisted hitem hknown hnew =>
      intro name hname
      cases hname
  | passed hlisted h =>
      intro name hname
      cases hname

theorem IsPassed.isItem_eq {p : Part} (h : IsPassed item known p) : isItem item p = false := by
  cases h with
  | text value => rfl
  | element hitem hknown hbegins => simpa [isItem] using hitem

/-- The texts among parts. -/
def textsOf (parts : List Part) : List (Option String) :=
  parts.filterMap fun
    | .text value => some value
    | .element .. => none

/-- The elements among parts. -/
def elementsOf (parts : List Part) : List (String × Interior) :=
  parts.filterMap fun
    | .text _ => none
    | .element name attributes parts => some (name, ⟨attributes, parts⟩)

/-- The items among parts. -/
def itemsOf (item : Option String) (parts : List Part) : List Interior :=
  ((elementsOf parts).filter fun q => item = some (afterFirstColon q.1)).map (·.2)

@[simp] theorem textsOf_append (parts parts' : List Part) :
    textsOf (parts ++ parts') = textsOf parts ++ textsOf parts' := List.filterMap_append

@[simp] theorem elementsOf_append (parts parts' : List Part) :
    elementsOf (parts ++ parts') = elementsOf parts ++ elementsOf parts' := List.filterMap_append

@[simp] theorem itemsOf_append (item : Option String) (parts parts' : List Part) :
    itemsOf item (parts ++ parts') = itemsOf item parts ++ itemsOf item parts' := by
  simp [itemsOf]

@[simp] theorem textsOf_element (name : String) (attributes : List Char)
    (inner parts : List Part) :
    textsOf (.element name attributes inner :: parts) = textsOf parts := rfl

@[simp] theorem elementsOf_element (name : String) (attributes : List Char)
    (inner parts : List Part) :
    elementsOf (.element name attributes inner :: parts) =
      (name, ⟨attributes, inner⟩) :: elementsOf parts := rfl

theorem itemsOf_eq_nil_iff : itemsOf item parts = [] ↔ ∀ p ∈ parts, isItem item p = false := by
  induction parts with
  | nil => simp [itemsOf, elementsOf]
  | cons p parts ih =>
      rw [← List.singleton_append, itemsOf_append, List.append_eq_nil_iff, ih,
        List.singleton_append, List.forall_mem_cons]
      cases p with
      | text value => simp [itemsOf, elementsOf, isItem]
      | element name attributes inner => simp [itemsOf, elementsOf, isItem]

theorem Takes.items_eq (hvalid : f.IsValid item) (h : Takes item known f p g) :
    g.items.getD [] = f.items.getD [] ++ itemsOf item [p] := by
  cases h with
  | text value hlisted => simp [itemsOf, elementsOf]
  | next attributes parts hlisted =>
      obtain ⟨hitem, hitems⟩ := hvalid _ hlisted
      obtain ⟨items, hitems⟩ := Option.isSome_iff_exists.mp hitems
      simp [itemsOf, elementsOf, ← hitem, hitems]
  | first attributes parts hlisted hitem hitems =>
      simp [itemsOf, elementsOf, ← hitem, hitems]
  | single attributes parts hlisted hitem hknown hnew => simp [itemsOf, elementsOf, hitem]
  | passed hlisted h =>
      cases h with
      | element hitem hunknown hbegins => simp [itemsOf, elementsOf, hitem]

theorem Takes.texts_eq (h : Takes item known f p g) :
    g.texts.map some = f.texts.map some ++ textsOf [p] := by
  cases h with
  | text value hlisted => simp [textsOf]
  | next _ _ _ | first _ _ _ _ _ | single _ _ _ _ _ _ | passed _ _ => simp [textsOf]

theorem items_foldlM (hvalid : f.IsValid item)
    (hread : parts.foldlM (Fields.step? item known) f = some g) :
    g.items.getD [] = f.items.getD [] ++ itemsOf item parts := by
  induction parts generalizing f with
  | nil =>
      obtain rfl := Option.some.inj hread
      exact (List.append_nil _).symm
  | cons p parts ih =>
      rw [List.foldlM_cons, Option.bind_eq_bind, Option.bind_eq_some_iff] at hread
      obtain ⟨f₁, hstep, hread⟩ := hread
      have htakes := step?_eq_some_iff.mp hstep
      rw [ih (htakes.isValid hvalid) hread, htakes.items_eq hvalid, List.append_assoc,
        ← itemsOf_append, List.singleton_append]

theorem texts_foldlM (hread : parts.foldlM (Fields.step? item known) f = some g) :
    g.texts.map some = f.texts.map some ++ textsOf parts := by
  induction parts generalizing f with
  | nil =>
      obtain rfl := Option.some.inj hread
      exact (List.append_nil _).symm
  | cons p parts ih =>
      rw [List.foldlM_cons, Option.bind_eq_bind, Option.bind_eq_some_iff] at hread
      obtain ⟨f₁, hstep, hread⟩ := hread
      rw [ih hread, (step?_eq_some_iff.mp hstep).texts_eq, List.append_assoc, ← textsOf_append,
        List.singleton_append]

theorem foldlM_of_read? (hread : Fields.read? item known i = some f) :
    i.parts.foldlM (Fields.step? item known) .empty = some f := by
  rw [Fields.read?, Option.bind_eq_some_iff] at hread
  obtain ⟨attributes, hraw, hread⟩ := hread
  exact hread

/-- All items are taken, in order. -/
theorem items_read? (hread : Fields.read? item known i = some f) :
    f.items.getD [] = itemsOf item i.parts :=
  items_foldlM (Fields.isValid_empty item) (foldlM_of_read? hread)

/-- All texts are taken, in order. -/
theorem texts_read? (hread : Fields.read? item known i = some f) :
    f.texts.map some = textsOf i.parts :=
  texts_foldlM (foldlM_of_read? hread)

theorem isItem_of_read? (hread : Fields.read? item known i = some f) (h : f.items.getD [] = []) :
    ∀ p ∈ i.parts, isItem item p = false := by
  rw [items_read? hread] at h
  exact itemsOf_eq_nil_iff.mp h

/-- A field is there when it was there or has come with a part. -/
theorem Takes.lookup_iff (hkey : key ∈ known) (hitem : item ≠ some key)
    (hvalid : f.IsValid item) (h : Takes item known f p g) (i : Interior) :
    g.singles.lookup key = some i ↔ f.singles.lookup key = some i ∨
      ∃ name, afterFirstColon name = key ∧ p = .element name i.attributes i.parts := by
  have hother {name : String} {attributes : List Char} {parts : List Part}
      (hne : afterFirstColon name ≠ key) :
      ¬∃ name', afterFirstColon name' = key ∧
        Part.element name attributes parts = .element name' i.attributes i.parts := by
    rintro ⟨name', hname, heq⟩
    cases heq
    exact hne hname
  cases h with
  | text value hlisted => simp
  | next attributes parts hlisted =>
      rw [or_iff_left (hother fun heq => hitem (heq ▸ (hvalid _ hlisted).1))]
  | first attributes parts hlisted hfirst hitems =>
      rw [or_iff_left (hother fun heq => hitem (heq ▸ hfirst))]
  | @single name attributes parts hlisted _ hknown hnew =>
      rw [List.lookup_append]
      by_cases hname : afterFirstColon name = key
      · subst hname
        rw [hnew]
        constructor
        · intro hfound
          obtain rfl : ⟨attributes, parts⟩ = i := by simpa using hfound
          exact .inr ⟨name, rfl, rfl⟩
        · rintro (hfound | ⟨name', -, heq⟩)
          · cases hfound
          · cases heq
            simp
      · rw [or_iff_left (hother hname), List.lookup_cons, beq_false_of_ne (Ne.symm hname)]
        simp
  | passed hlisted h =>
      cases h with
      | element hpassed hunknown hbegins =>
          rw [or_iff_left (hother fun heq => hunknown (heq ▸ hkey))]

/-- A field is an element of this name among the parts. -/
theorem lookup_foldlM (hkey : key ∈ known)
    (hitem : item ≠ some key) (hvalid : f.IsValid item)
    (hread : parts.foldlM (Fields.step? item known) f = some g) (i : Interior) :
    g.singles.lookup key = some i ↔ f.singles.lookup key = some i ∨
      ∃ name, afterFirstColon name = key ∧ .element name i.attributes i.parts ∈ parts := by
  induction parts generalizing f with
  | nil =>
      obtain rfl := Option.some.inj hread
      simp
  | cons p parts ih =>
      rw [List.foldlM_cons, Option.bind_eq_bind, Option.bind_eq_some_iff] at hread
      obtain ⟨f₁, hstep, hread⟩ := hread
      have htakes := step?_eq_some_iff.mp hstep
      rw [ih (htakes.isValid hvalid) hread, htakes.lookup_iff hkey hitem hvalid, or_assoc]
      simp only [List.mem_cons, and_or_left, exists_or, eq_comm]

/-- A field that is read is an element of this name. -/
theorem lookup_read? {i' : Interior} (hkey : key ∈ known) (hitem : item ≠ some key)
    (hread : Fields.read? item known i = some f) :
    f.singles.lookup key = some i' ↔
      ∃ name, afterFirstColon name = key ∧ .element name i'.attributes i'.parts ∈ i.parts := by
  rw [lookup_foldlM hkey hitem (Fields.isValid_empty item) (foldlM_of_read? hread) i']
  simp [Fields.empty]

end Taking

section Plain

theorem afterFirstColon_of_not_mem {name : String} (h : ':' ∉ name.toList) :
    afterFirstColon name = name := by
  have hdrop : name.toList.dropWhile (· ≠ ':') = [] := by
    rw [List.dropWhile_eq_nil_iff]
    intro c hc
    rw [decide_eq_true_eq]
    rintro rfl
    exact h hc
  rw [afterFirstColon, hdrop]

theorem afterFirstColon_of_isPlainName {name : String} (h : isPlainName name = true) :
    afterFirstColon name = name := by
  apply afterFirstColon_of_not_mem
  intro hmem
  exact absurd ((isPlainName_iff.mp h).2 _ hmem) (by decide)

/-- What was written from a tree can be read. -/
theorem head?_parts (c : Content) : c.parts.head? ≠ some (.text none) := by
  induction c with
  | nil => simp [Content.parts]
  | text value rest ih =>
      rw [Content.parts]
      split
      · exact ih
      · simp
  | element name attributes children rest => simp [Content.parts]

theorem isPassed_parts {item : Option String} {known : List String} {c : Content}
    (hplain : c.isPlain = true) (h : ∀ e ∈ c.elements, e.name ∉ item.toList ++ known) :
    ∀ p ∈ c.parts, IsPassed item known p := by
  induction c with
  | nil => simp [Content.parts]
  | text value rest ih =>
      rw [Content.parts, List.forall_mem_append]
      refine ⟨?_, ih hplain h⟩
      intro p hp
      split at hp
      · cases hp
      · rw [List.mem_singleton.mp hp]
        exact .text value
  | element name attributes children rest _ ih =>
      simp only [Content.isPlain, Bool.and_eq_true] at hplain
      obtain ⟨⟨⟨hname, -⟩, -⟩, hrest⟩ := hplain
      rw [Content.elements, List.forall_mem_cons] at h
      rw [Content.parts, List.forall_mem_cons]
      refine ⟨.element ?_ ?_ (head?_parts children), ih hrest h.2⟩
      · rw [afterFirstColon_of_isPlainName hname]
        rintro rfl
        exact h.1 (by simp)
      · rw [afterFirstColon_of_isPlainName hname]
        exact fun hmem => h.1 (List.mem_append_right _ hmem)

/-- A field among elements that are not known is read. -/
theorem read?_single (item : Option String) (known : List String) (key : String)
    (hkey : afterFirstColon key = key) (hmem : key ∈ known) (hitem : item ≠ some key)
    (around : Around (item.toList ++ known)) (parts : List Part) :
    ∃ texts, Fields.read? item known
        ⟨[], around.before.parts ++ .element key [] parts :: around.after.parts⟩ =
      some ⟨texts, none, [(key, ⟨[], parts⟩)], none⟩ := by
  have hpassed := around.passed
  rw [List.forall_mem_append] at hpassed
  obtain ⟨texts, hbefore⟩ := foldlM_passed (f := .empty)
    (isPassed_parts around.plain.1 hpassed.1) rfl
  obtain ⟨texts', hafter⟩ := foldlM_passed (f := ⟨texts, none, [(key, ⟨[], parts⟩)], none⟩)
    (isPassed_parts around.plain.2 hpassed.2) rfl
  have hstep : Fields.step? item known ⟨texts, none, [], none⟩ (.element key [] parts) =
      some ⟨texts, none, [(key, ⟨[], parts⟩)], none⟩ := by
    simp [Fields.step?, hkey, hitem, hmem]
  refine ⟨texts', ?_⟩
  rw [Fields.read?, rawAttributes?_nil, Option.bind_some, List.foldlM_append, hbefore]
  simp only [Option.bind_eq_bind, Option.bind_some, List.foldlM_cons, Fields.empty, hstep]
  exact hafter

end Plain

end MetadataHarvest.Protocol
