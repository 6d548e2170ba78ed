import MetadataHarvest.Proofs.Protocol.Fields
import Mathlib.Data.List.Forall2

/-!
# Elements with further parts

More elements, with names that are not known, may stand among the parts of an element. Its fields
are read as before, unless one of them stands between two items of its list: items are only taken
together as long as they follow one another, and a second run of them makes the element
unreadable.
-/

namespace MetadataHarvest.Protocol

open Markup

/-- The names of the elements that are known somewhere in a response. -/
def knownNames : List String :=
  ["error", "ListMetadataFormats", "Identify", "metadataFormat", "metadataPrefix",
    "metadataNamespace", "schema", "repositoryName"]

/-- Whether a part is an element that is known nowhere, and can be read when it begins with a
text. -/
inductive IsFurther : Part → Prop
  | intro {name : String} {attributes : List Char} {parts : List Part}
      (hname : afterFirstColon name ∉ knownNames) (hbegins : parts.head? ≠ some (.text none)) :
      IsFurther (.element name attributes parts)

/-- The second list has further elements in it, and otherwise parts related to those of the
first one. -/
inductive Widened (R : Part → Part → Prop) : List Part → List Part → Prop
  | nil : Widened R [] []
  | keep {p p' : Part} {parts parts' : List Part} (h : R p p') (hrest : Widened R parts parts') :
      Widened R (p :: parts) (p' :: parts')
  | further {p : Part} {parts parts' : List Part} (h : IsFurther p)
      (hrest : Widened R parts parts') : Widened R parts (p :: parts')

/-- The second part is the first one, or an element with a key whose parts are related. -/
inductive Inside (key : String) (R : List Part → List Part → Prop) : Part → Part → Prop
  | same (p : Part) : Inside key R p p
  | parts {name : String} {attributes : List Char} {parts parts' : List Part}
      (hkey : afterFirstColon name = key) (h : R parts parts') :
      Inside key R (.element name attributes parts) (.element name attributes parts')

section List

/-- How far the list of an element has come: no item has been taken yet, its items are being
taken, or something else has followed them. -/
inductive Phase where
  | before
  | during
  | after
  deriving DecidableEq

/-- The phase after one more part, of which `isItem` says whether it is an item. -/
def Phase.next : Phase → (isItem : Bool) → Phase
  | before, true | during, true => during
  | before, false => before
  | during, false | after, _ => after

/-- Whether items follow one another in what comes after a phase. -/
def KeepsTogether (item : Option String) : Phase → List Part → Prop
  | _, [] => True
  | phase, p :: parts =>
    (phase = .after → isItem item p = false) ∧ KeepsTogether item (phase.next (isItem item p)) parts

variable {item : Option String} {p : Part} {parts : List Part}

/-- Whether something else stands between two items. -/
def IsInterrupted (item : Option String) (parts : List Part) : Prop :=
  ∃ x p y, [x, p, y].Sublist parts ∧ isItem item x = true ∧ isItem item p = false ∧
    isItem item y = true

/-- Whether an item comes after something else. -/
def Resumes (item : Option String) (parts : List Part) : Prop :=
  ∃ p y, [p, y].Sublist parts ∧ isItem item p = false ∧ isItem item y = true

theorem sublist_cons_iff {q : Part} {rest : List Part} : (q :: rest).Sublist (p :: parts) ↔
    (q :: rest).Sublist parts ∨ q = p ∧ rest.Sublist parts := by
  simp only [List.sublist_cons_iff, List.cons.injEq, and_assoc, exists_and_left, exists_eq_left']

theorem resumes_cons : Resumes item (p :: parts) ↔
    (isItem item p = false ∧ ∃ y ∈ parts, isItem item y = true) ∨ Resumes item parts := by
  constructor
  · rintro ⟨q, y, hsublist, hq, hy⟩
    obtain hrest | ⟨rfl, hrest⟩ := sublist_cons_iff.mp hsublist
    · exact .inr ⟨q, y, hrest, hq, hy⟩
    · exact .inl ⟨hq, y, List.singleton_sublist.mp hrest, hy⟩
  · rintro (⟨hp, y, hmem, hy⟩ | ⟨q, y, hsublist, hq, hy⟩)
    · exact ⟨p, y, (List.singleton_sublist.mpr hmem).cons_cons p, hp, hy⟩
    · exact ⟨q, y, hsublist.cons p, hq, hy⟩

theorem isInterrupted_cons : IsInterrupted item (p :: parts) ↔
    (isItem item p = true ∧ Resumes item parts) ∨ IsInterrupted item parts := by
  constructor
  · rintro ⟨x, q, y, hsublist, hx, hq, hy⟩
    obtain hrest | ⟨rfl, hrest⟩ := sublist_cons_iff.mp hsublist
    · exact .inr ⟨x, q, y, hrest, hx, hq, hy⟩
    · exact .inl ⟨hx, q, y, hrest, hq, hy⟩
  · rintro (⟨hp, q, y, hsublist, hq, hy⟩ | ⟨x, q, y, hsublist, hx, hq, hy⟩)
    · exact ⟨p, q, y, hsublist.cons_cons p, hp, hq, hy⟩
    · exact ⟨x, q, y, hsublist.cons p, hx, hq, hy⟩

theorem IsInterrupted.resumes (h : IsInterrupted item parts) : Resumes item parts := by
  obtain ⟨x, q, y, hsublist, -, hq, hy⟩ := h
  exact ⟨q, y, (List.sublist_cons_self x [q, y]).trans hsublist, hq, hy⟩

theorem Resumes.exists_item (h : Resumes item parts) : ∃ y ∈ parts, isItem item y = true := by
  obtain ⟨q, y, hsublist, -, hy⟩ := h
  exact ⟨y, hsublist.subset (by simp), hy⟩

/-- Items follow one another exactly when nothing else stands between two of them. -/
theorem keepsTogether_iff (item : Option String) (parts : List Part) :
    (KeepsTogether item .before parts ↔ ¬IsInterrupted item parts) ∧
      (KeepsTogether item .during parts ↔ ¬Resumes item parts) ∧
      (KeepsTogether item .after parts ↔ ¬∃ y ∈ parts, isItem item y = true) := by
  induction parts with
  | nil => simp [KeepsTogether, IsInterrupted, Resumes]
  | cons p parts ih =>
      obtain ⟨hbefore, hduring, hafter⟩ := ih
      have hresumes : IsInterrupted item parts → Resumes item parts := IsInterrupted.resumes
      have hexists : Resumes item parts → ∃ y ∈ parts, isItem item y = true :=
        Resumes.exists_item
      simp only [KeepsTogether, isInterrupted_cons, resumes_cons, List.exists_mem_cons_iff]
      cases hp : isItem item p with
      | true => simp [Phase.next, hduring, or_iff_left_of_imp hresumes]
      | false => simp [Phase.next, hbefore, hafter, or_iff_left_of_imp hexists]

namespace Fields

def phase (f : Fields) : Phase :=
  match f.items, f.listed with
  | none, _ => .before
  | some _, some _ => .during
  | some _, none => .after

theorem phase_eq_after {f : Fields} (h : f.phase = .after) : f.items ≠ none ∧ f.listed = none := by
  unfold phase at h
  split at h
  · cases h
  · cases h
  · next hitems hlisted => exact ⟨by simp [hitems], hlisted⟩

/-- What is no item ends the list. -/
theorem phase_passed (f : Fields) (texts : List String) (singles : List (String × Interior)) :
    Fields.phase ⟨texts, f.items, singles, none⟩ = f.phase.next false := by
  obtain ⟨-, items, -, listed⟩ := f
  cases items <;> cases listed <;> rfl

end Fields

end List

section Extension

variable {item : Option String} {known : List String} {key : String}
  {R : List Part → List Part → Prop}

/-- The second field is the first one, or its parts are related to those of it. -/
def Interior.Extends (R : List Part → List Part → Prop) (i i' : Interior) : Prop :=
  i' = i ∨ i'.attributes = i.attributes ∧ R i.parts i'.parts

/-- The second fields are the first ones, except that the parts of the one field or item with a
key may be related. -/
structure Fields.Extends (key : String) (R : List Part → List Part → Prop) (f f' : Fields) :
    Prop where
  texts : f'.texts = f.texts
  items : Option.Rel (List.Forall₂ (Interior.Extends R)) f.items f'.items
  singles : List.Forall₂ (fun s s' => s'.1 = s.1 ∧ (s.1 ≠ key → s'.2 = s.2) ∧
    Interior.Extends R s.2 s'.2) f.singles f'.singles
  listed : f'.listed = f.listed ∨ f'.listed = none

namespace Fields.Extends

variable {f f' : Fields}

theorem items_of_some (h : f.Extends key R f') {items : List Interior}
    (hitems : f.items = some items) :
    ∃ items', f'.items = some items' ∧ List.Forall₂ (Interior.Extends R) items items' := by
  have hrel := h.items
  rw [hitems] at hrel
  cases hitems' : f'.items with
  | none =>
      rw [hitems'] at hrel
      cases hrel
  | some items' =>
      rw [hitems'] at hrel
      cases hrel with
      | some hrel => exact ⟨items', rfl, hrel⟩

theorem items_of_none (h : f.Extends key R f') (hitems : f.items = none) : f'.items = none := by
  have hrel := h.items
  rw [hitems] at hrel
  cases hitems' : f'.items with
  | none => rfl
  | some items' =>
      rw [hitems'] at hrel
      cases hrel

/-- A field that is looked up is the same in both, or its parts are related. -/
theorem lookup (h : f.Extends key R f') (name : String) :
    Option.Rel (fun i i' => (name ≠ key → i' = i) ∧ Interior.Extends R i i')
      (f.singles.lookup name) (f'.singles.lookup name) := by
  have hsingles := h.singles
  generalize f.singles = singles, f'.singles = singles' at hsingles
  induction hsingles with
  | nil => exact .none
  | @cons s s' singles singles' hs _ ih =>
      obtain ⟨hname, hsame, hextends⟩ := hs
      rw [List.lookup_cons, List.lookup_cons, hname]
      split
      · next heq =>
          rw [eq_of_beq heq]
          exact .some ⟨hsame, hextends⟩
      · exact ih

theorem lookup_of_ne (h : f.Extends key R f') {name : String} (hne : name ≠ key) :
    f'.singles.lookup name = f.singles.lookup name := by
  have hrel := h.lookup name
  generalize f.singles.lookup name = i, f'.singles.lookup name = i' at hrel
  cases hrel with
  | none => rfl
  | some hsame => rw [hsame.1 hne]

/-- A list without items stays so. -/
theorem items_getD (h : f.Extends key R f') (hitems : f.items.getD [] = []) :
    f'.items.getD [] = [] := by
  cases hlist : f.items with
  | none => rw [h.items_of_none hlist, Option.getD_none]
  | some items =>
      obtain ⟨items', hlist', hrel⟩ := h.items_of_some hlist
      rw [hlist, Option.getD_some] at hitems
      subst hitems
      cases hrel
      rw [hlist', Option.getD_some]

end Fields.Extends

theorem Inside.of_element {name : String} {attributes : List Char} {parts : List Part} {p' : Part}
    (h : Inside key R (.element name attributes parts) p') :
    ∃ parts', p' = .element name attributes parts' ∧
      (afterFirstColon name ≠ key → parts' = parts) ∧
      Interior.Extends R ⟨attributes, parts⟩ ⟨attributes, parts'⟩ := by
  cases h with
  | same => exact ⟨parts, rfl, fun _ => rfl, .inl rfl⟩
  | parts hkey h => exact ⟨_, rfl, fun hne => absurd hkey hne, .inr ⟨rfl, h⟩⟩

theorem Inside.isItem_eq {p p' : Part} (h : Inside key R p p') :
    isItem item p' = isItem item p := by
  cases h <;> rfl

/-- One more item after another part makes an element unreadable. -/
theorem step?_after {f : Fields} {p : Part} (hphase : f.phase = .after)
    (hp : isItem item p = true) : f.step? item known p = none := by
  rw [Option.eq_none_iff_forall_ne_some]
  intro g hg
  have hafter := Fields.phase_eq_after hphase
  cases step?_eq_some_iff.mp hg with
  | text value hlisted => cases hp
  | next attributes parts hlisted => simp [hafter.2] at hlisted
  | first attributes parts hlisted hitem hitems => exact hafter.1 hitems
  | single attributes parts hlisted hitem hknown hnew =>
      rw [isItem, decide_eq_true_eq] at hp
      exact hitem hp
  | passed hlisted h =>
      cases h with
      | element hitem hknown hbegins =>
          rw [isItem, decide_eq_true_eq] at hp
          exact hitem hp

/-- A part that is taken is taken with related parts too, unless it is an item and something else
has followed the items. -/
theorem Takes.extend {f f' g : Fields} {p p' : Part} (htarget : item = some key ∨ key ∈ known)
    (hvalid : f.IsValid item) (hext : f.Extends key R f') (hp : Inside key R p p')
    (h : Takes item known f p g) (hafter : f'.phase = .after → isItem item p' = false) :
    ∃ g', Takes item known f' p' g' ∧ g.Extends key R g' ∧
      g'.phase = f'.phase.next (isItem item p') := by
  have hne {name : String} (hlisted : f.listed ≠ some name) : f'.listed ≠ some name := by
    rcases hext.listed with hsame | hnone
    · rwa [hsame]
    · simp [hnone]
  cases h with
  | text value hlisted =>
      have hlisted' : f'.listed = none := by
        rcases hext.listed with hsame | hnone
        · rw [hsame, hlisted]
        · exact hnone
      cases hp with
      | same =>
          refine ⟨_, .text value hlisted', ⟨?_, hext.items, hext.singles, hext.listed⟩, ?_⟩
          · rw [hext.texts]
          · rw [hlisted']
            exact f'.phase_passed _ _
  | @next name attributes parts hlisted =>
      obtain ⟨hitem, hitems⟩ := hvalid name hlisted
      obtain ⟨parts', rfl, -, hinterior⟩ := hp.of_element
      obtain ⟨items, hitems⟩ := Option.isSome_iff_exists.mp hitems
      obtain ⟨items', hitems', hrel⟩ := hext.items_of_some hitems
      have hlisted' : f'.listed = some name := by
        rcases hext.listed with hsame | hnone
        · rw [hsame, hlisted]
        · have hphase : f'.phase = .after := by simp [Fields.phase, hitems', hnone]
          simp [isItem, hitem] at hafter
          exact absurd hphase hafter
      refine ⟨_, .next attributes parts' hlisted', ⟨hext.texts, ?_, hext.singles, hext.listed⟩, ?_⟩
      · rw [hitems, hitems']
        exact .some (List.rel_append hrel (.cons hinterior .nil))
      · simp [Fields.phase, hitems', hlisted', isItem, hitem, Phase.next]
  | @first name attributes parts hlisted hitem hitems =>
      obtain ⟨parts', rfl, -, hinterior⟩ := hp.of_element
      have hitems' := hext.items_of_none hitems
      refine ⟨_, .first attributes parts' (hne hlisted) hitem hitems',
        ⟨hext.texts, .some (.cons hinterior .nil), hext.singles, .inl rfl⟩, ?_⟩
      simp [Fields.phase, hitems', isItem, hitem, Phase.next]
  | @single name attributes parts hlisted hitem hknown hnew =>
      obtain ⟨parts', rfl, hsame, hinterior⟩ := hp.of_element
      have hnew' : f'.singles.lookup (afterFirstColon name) = none := by
        have hrel := hext.lookup (afterFirstColon name)
        rw [hnew] at hrel
        cases hlookup : f'.singles.lookup (afterFirstColon name) with
        | none => rfl
        | some i =>
            rw [hlookup] at hrel
            cases hrel
      have hitem' : isItem item (.element name attributes parts') = false := by
        simpa [isItem] using hitem
      refine ⟨_, .single attributes parts' (hne hlisted) hitem hknown hnew',
        ⟨hext.texts, hext.items, List.rel_append hext.singles (.cons ⟨rfl, ?_, hinterior⟩ .nil),
          .inl rfl⟩, ?_⟩
      · exact fun hkey => by rw [hsame hkey]
      · rw [hitem']
        exact f'.phase_passed _ _
  | @passed name attributes parts hlisted h =>
      obtain ⟨parts', rfl, hsame, -⟩ := hp.of_element
      obtain rfl : parts' = parts := by
        apply hsame
        cases h with
        | element hitem hknown hbegins =>
            rcases htarget with rfl | hmem
            · exact fun heq => hitem (by rw [heq])
            · exact fun heq => hknown (heq ▸ hmem)
      refine ⟨_, .passed (hne hlisted) h, ⟨hext.texts, hext.items, hext.singles, .inl rfl⟩, ?_⟩
      rw [h.isItem_eq]
      exact f'.phase_passed _ _

/-- A further element is passed over. -/
theorem Takes.further {f f' : Fields} {p : Part}
    (hknown : ∀ name ∈ item.toList ++ known, name ∈ knownNames) (hvalid : f.IsValid item)
    (hext : f.Extends key R f') (hp : IsFurther p) :
    isItem item p = false ∧ ∃ g', Takes item known f' p g' ∧ f.Extends key R g' ∧
      g'.phase = f'.phase.next false := by
  cases hp with
  | @intro name attributes parts hname hbegins =>
      have hitem : item ≠ some (afterFirstColon name) := by
        rintro rfl
        exact hname (hknown _ (by simp))
      have hlisted : f'.listed ≠ some name := by
        intro hlisted
        rcases hext.listed with hsame | hnone
        · exact hitem (hvalid name (hsame ▸ hlisted)).1
        · rw [hnone] at hlisted
          cases hlisted
      have hpassed : IsPassed item known (.element name attributes parts) :=
        .element hitem (fun hmem => hname (hknown _ (List.mem_append_right _ hmem))) hbegins
      exact ⟨hpassed.isItem_eq, _, .passed hlisted hpassed,
        ⟨hext.texts, hext.items, hext.singles, .inr rfl⟩, f'.phase_passed _ _⟩

/-- Related parts are taken one after the other as long as items follow one another, and else they
cannot be taken. -/
theorem foldlM_widened {parts parts' : List Part} (htarget : item = some key ∨ key ∈ known)
    (hknown : ∀ name ∈ item.toList ++ known, name ∈ knownNames)
    (h : Widened (Inside key R) parts parts') {f f' g : Fields} (hvalid : f.IsValid item)
    (hext : f.Extends key R f') (hread : parts.foldlM (Fields.step? item known) f = some g) :
    (KeepsTogether item f'.phase parts' →
      ∃ g', parts'.foldlM (Fields.step? item known) f' = some g' ∧ g.Extends key R g') ∧
      (¬KeepsTogether item f'.phase parts' →
        parts'.foldlM (Fields.step? item known) f' = none) := by
  induction h generalizing f f' with
  | nil =>
      obtain rfl := Option.some.inj hread
      exact ⟨fun _ => ⟨f', rfl, hext⟩, fun h => absurd trivial h⟩
  | @keep p p' parts parts' hp hrest ih =>
      rw [List.foldlM_cons, Option.bind_eq_bind, Option.bind_eq_some_iff] at hread
      obtain ⟨f₁, hstep, hread⟩ := hread
      have htakes := step?_eq_some_iff.mp hstep
      rw [List.foldlM_cons, KeepsTogether]
      by_cases hafter : f'.phase = .after → isItem item p' = false
      · obtain ⟨f₁', htakes', hext', hphase⟩ := htakes.extend htarget hvalid hext hp hafter
        have hrest := ih (htakes.isValid hvalid) hext' hread
        rw [hphase] at hrest
        rw [step?_eq_some_iff.mpr htakes', and_iff_right hafter]
        exact hrest
      · rw [Classical.not_imp, Bool.not_eq_false] at hafter
        refine ⟨fun h => absurd (h.1 hafter.1) (by simp [hafter.2]), fun _ => ?_⟩
        rw [step?_after hafter.1 hafter.2]
        rfl
  | @further p parts parts' hp hrest ih =>
      obtain ⟨hitem, f₁', htakes', hext', hphase⟩ := Takes.further hknown hvalid hext hp
      have hrest := ih hvalid hext' hread
      rw [hphase] at hrest
      rw [List.foldlM_cons, KeepsTogether, step?_eq_some_iff.mpr htakes', hitem,
        and_iff_right fun _ => rfl]
      exact hrest

/-- The fields of an element with further parts are read as before, unless the list is
interrupted. -/
theorem read?_widened {i i' : Interior} (htarget : item = some key ∨ key ∈ known)
    (hknown : ∀ name ∈ item.toList ++ known, name ∈ knownNames)
    (hattributes : i'.attributes = i.attributes) (h : Widened (Inside key R) i.parts i'.parts)
    {f : Fields} (hread : Fields.read? item known i = some f) :
    (¬IsInterrupted item i'.parts →
      ∃ f', Fields.read? item known i' = some f' ∧ f.Extends key R f') ∧
      (IsInterrupted item i'.parts → Fields.read? item known i' = none) := by
  rw [Fields.read?, Option.bind_eq_some_iff] at hread
  obtain ⟨attributes, hraw, hread⟩ := hread
  have hempty : Fields.empty.Extends key R .empty := ⟨rfl, .none, .nil, .inl rfl⟩
  have hrun := foldlM_widened htarget hknown h (Fields.isValid_empty item) hempty hread
  have htogether : KeepsTogether item Fields.empty.phase i'.parts ↔ ¬IsInterrupted item i'.parts :=
    (keepsTogether_iff item i'.parts).1
  rw [htogether, Classical.not_not] at hrun
  rw [Fields.read?, hattributes, hraw, Option.bind_some]
  exact hrun

end Extension

section Items

variable {item : Option String} {key : String}

/-- Further elements are no items. -/
theorem Widened.isItem {R : List Part → List Part → Prop} {parts parts' : List Part}
    (hknown : ∀ name ∈ item, name ∈ knownNames) (h : Widened (Inside key R) parts parts')
    (hparts : ∀ p ∈ parts, isItem item p = false) : ∀ p ∈ parts', isItem item p = false := by
  induction h with
  | nil => exact hparts
  | keep hp hrest ih =>
      rw [List.forall_mem_cons] at hparts ⊢
      exact ⟨hp.isItem_eq.trans hparts.1, ih hparts.2⟩
  | further hp hrest ih =>
      rw [List.forall_mem_cons]
      refine ⟨?_, ih hparts⟩
      cases hp with
      | intro hname hbegins =>
          rw [Protocol.isItem, decide_eq_false_iff_not]
          rintro rfl
          exact hname (hknown _ rfl)

end Items

end MetadataHarvest.Protocol
