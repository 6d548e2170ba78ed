import MetadataHarvest.Proofs.Format.Listing
import MetadataHarvest.Proofs.Protocol.Extended

/-!
# Lists of formats with further elements

A repository may put elements that are not known among those of its answer. The formats that it
lists are the same, except that an element between two of them makes the whole answer unreadable.
-/

namespace MetadataHarvest.Protocol

open Markup Text

/-- A format with further elements. -/
def FormatExtended : List Part → List Part → Prop := Widened Eq

/-- A list of formats with further elements, also in its formats. -/
def ListExtended : List Part → List Part → Prop :=
  Widened (Inside "metadataFormat" FormatExtended)

/-- The parts of a root with further elements, also in its list of formats and in the formats. -/
def RootExtended : List Part → List Part → Prop :=
  Widened (Inside "ListMetadataFormats" ListExtended)

/-- Whether something else stands between two formats of a list. -/
def InterruptsFormats (parts : List Part) : Prop :=
  ∃ i : Interior, (∃ name, afterFirstColon name = "ListMetadataFormats" ∧
    .element name i.attributes i.parts ∈ parts) ∧ IsInterrupted (some "metadataFormat") i.parts

section Format

theorem Widened.mono {R S : Part → Part → Prop} (hRS : ∀ p p', R p p' → S p p')
    {parts parts' : List Part} (h : Widened R parts parts') : Widened S parts parts' := by
  induction h with
  | nil => exact .nil
  | keep hp hrest ih => exact .keep (hRS _ _ hp) ih
  | further hp hrest ih => exact .further hp ih

/-- Where nothing is an item a list is not interrupted. -/
theorem not_isInterrupted {item : Option String} {parts : List Part}
    (h : ∀ p ∈ parts, isItem item p = false) : ¬IsInterrupted item parts := by
  rintro ⟨x, p, y, hsublist, hx, -⟩
  have hfalse := h x (hsublist.subset (by simp))
  rw [hx] at hfalse
  cases hfalse

theorem Widened.refl {R : Part → Part → Prop} (hR : ∀ p, R p p) (parts : List Part) :
    Widened R parts parts := by
  induction parts with
  | nil => exact .nil
  | cons p parts ih => exact .keep (hR p) ih

theorem Interior.Extends.parts {R : List Part → List Part → Prop} (hR : ∀ parts, R parts parts)
    {i i' : Interior} (h : i.Extends R i') :
    i'.attributes = i.attributes ∧ R i.parts i'.parts := by
  obtain rfl | h := h
  · exact ⟨rfl, hR _⟩
  · exact h

theorem singles_eq {s s' : String × Interior} (hname : s'.1 = s.1)
    (h : Interior.Extends Eq s.2 s'.2) : s = s' := by
  obtain ⟨hattributes, hparts⟩ := h.parts fun _ => rfl
  obtain ⟨name, attributes, parts⟩ := s
  obtain ⟨name', attributes', parts'⟩ := s'
  simp only at hname hattributes hparts
  rw [hname, hattributes, hparts]

/-- A format is read as before. -/
theorem OfferedFormat.read?_extended {i i' : Interior} (h : i.Extends FormatExtended i')
    {format : OfferedFormat} (hread : OfferedFormat.read? i = some format) :
    OfferedFormat.read? i' = some format := by
  obtain rfl | ⟨hattributes, hparts⟩ := h
  · exact hread
  · simp only [OfferedFormat.read?, Option.bind_eq_bind, Option.bind_eq_some_iff] at hread
    obtain ⟨f, hfields, hrest⟩ := hread
    have hwidened : Widened (Inside "metadataPrefix" Eq) i.parts i'.parts := by
      refine hparts.mono ?_
      rintro p p' rfl
      exact .same p
    have hnever : ¬IsInterrupted none i'.parts := by
      apply not_isInterrupted
      intro p _
      cases p <;> simp [isItem]
    obtain ⟨f', hfields', hextends⟩ :=
      (read?_widened (.inr (by decide)) (by decide) hattributes hwidened hfields).1 hnever
    have hsingles : f'.singles = f.singles := by
      have hrel := hextends.singles.imp fun s s' hs => singles_eq hs.1 hs.2.2
      rw [List.forall₂_eq_eq_eq] at hrel
      exact hrel.symm
    simp only [OfferedFormat.read?, Option.bind_eq_bind, hfields', Option.bind_some,
      Option.bind_eq_some_iff, Fields.text?, hsingles]
    exact hrest

theorem mapM_extended {items items' : List Interior}
    (h : List.Forall₂ (Interior.Extends FormatExtended) items items') {formats : List OfferedFormat}
    (hread : items.mapM OfferedFormat.read? = some formats) :
    items'.mapM OfferedFormat.read? = some formats := by
  induction h generalizing formats with
  | nil => exact hread
  | cons hi _ ih =>
      simp only [List.mapM_cons, Option.bind_eq_bind, Option.bind_eq_some_iff] at hread ⊢
      obtain ⟨format, hformat, rest, hrest, hformats⟩ := hread
      exact ⟨format, OfferedFormat.read?_extended hi hformat, rest, ih hrest, hformats⟩

/-- A list of formats is read as before, unless it is interrupted. -/
theorem readFormats?_extended {i i' : Interior} (h : i.Extends ListExtended i')
    {formats : List OfferedFormat} (hread : readFormats? i = some formats) :
    (¬IsInterrupted (some "metadataFormat") i'.parts → readFormats? i' = some formats) ∧
      (IsInterrupted (some "metadataFormat") i'.parts → readFormats? i' = none) := by
  rw [readFormats?, Option.bind_eq_some_iff] at hread
  obtain ⟨f, hfields, hread⟩ := hread
  obtain ⟨hattributes, hparts⟩ := h.parts (Widened.refl fun p => .same p)
  have hwidened := read?_widened (.inl rfl) (by decide) hattributes hparts hfields
  constructor
  · intro hnot
    obtain ⟨f', hfields', hextends⟩ := hwidened.1 hnot
    rw [readFormats?, hfields', Option.bind_some]
    cases hitems : f.items with
    | none =>
        rw [hextends.items_of_none hitems]
        rwa [hitems] at hread
    | some items =>
        obtain ⟨items', hitems', hrel⟩ := hextends.items_of_some hitems
        rw [hitems] at hread
        rw [hitems']
        exact mapM_extended hrel hread
  · intro hinterrupted
    rw [readFormats?, hwidened.2 hinterrupted, Option.bind_none]

end Format

section Root

/-- The list of formats of a root is interrupted when the one that is read is. -/
theorem interruptsFormats_iff {i : Interior} {f : Fields}
    (hfields : Fields.read? (some "error") ["ListMetadataFormats", "Identify"] i = some f) :
    InterruptsFormats i.parts ↔ ∃ list ∈ f.singles.lookup "ListMetadataFormats",
      IsInterrupted (some "metadataFormat") list.parts := by
  have hlookup (list : Interior) : f.singles.lookup "ListMetadataFormats" = some list ↔
      ∃ name, afterFirstColon name = "ListMetadataFormats" ∧
        .element name list.attributes list.parts ∈ i.parts :=
    lookup_read? (by decide) (by decide) hfields
  simp only [InterruptsFormats, Option.mem_def, hlookup]

/-- A root without errors is read as before, unless its list of formats is interrupted. -/
theorem Envelope.ofRoot?_extended (i i' : Interior) (hattributes : i'.attributes = i.attributes)
    (h : RootExtended i.parts i'.parts) {envelope : Envelope}
    (hread : Envelope.ofRoot? i = some envelope) (herrors : envelope.errors = []) :
    (¬InterruptsFormats i'.parts → Envelope.ofRoot? i' = some envelope) ∧
      (InterruptsFormats i'.parts → Envelope.ofRoot? i' = none) := by
  obtain ⟨f, hfields, hmapM, hformats, hname⟩ := ofRoot?_eq_some_iff.mp hread
  have hitems : f.items.getD [] = [] := by
    cases hlist : f.items.getD [] with
    | nil => rfl
    | cons i items => simp [hlist, herrors, Option.bind_eq_some_iff] at hmapM
  have hnever : ¬IsInterrupted (some "error") i'.parts :=
    not_isInterrupted (h.isItem (by simp [knownNames]) (isItem_of_read? hfields hitems))
  obtain ⟨f', hfields', hextends⟩ :=
    (read?_widened (.inr (by decide)) (by decide) hattributes h hfields).1 hnever
  have hitems' : f'.items.getD [] = [] := hextends.items_getD hitems
  have hidentify : f'.singles.lookup "Identify" = f.singles.lookup "Identify" :=
    hextends.lookup_of_ne (by decide)
  have hlists := hextends.lookup "ListMetadataFormats"
  have hmapM' : (f'.items.getD []).mapM ReportedError.read? = some envelope.errors := by
    rw [hitems', ← hitems, hmapM]
  rw [← hidentify] at hname
  rw [interruptsFormats_iff hfields']
  generalize hlist : f.singles.lookup "ListMetadataFormats" = list,
    hlist' : f'.singles.lookup "ListMetadataFormats" = list' at hlists hformats
  cases hlists with
  | none =>
      refine ⟨fun _ => ?_, fun hinterrupted => absurd hinterrupted (by simp)⟩
      rw [ofRoot?_eq_some_iff]
      exact ⟨f', hfields', hmapM', by rw [hlist', hformats], hname⟩
  | @some list list' hrel =>
      rw [Option.mapM_some] at hformats
      obtain ⟨formats, hread, hsome⟩ := Option.map_eq_some_iff.mp hformats
      have hextended := readFormats?_extended hrel.2 hread
      constructor
      · intro hnot
        have hread' := hextended.1 fun hinterrupted => hnot ⟨list', rfl, hinterrupted⟩
        rw [ofRoot?_eq_some_iff]
        refine ⟨f', hfields', hmapM', ?_, hname⟩
        rw [hlist', Option.mapM_some, hread', ← hsome]
        rfl
      · rintro ⟨list'', hmem, hinterrupted⟩
        obtain rfl := Option.some.inj hmem
        rw [Option.eq_none_iff_forall_ne_some]
        intro envelope' hread'
        obtain ⟨f'', hfields'', -, hformats', -⟩ := ofRoot?_eq_some_iff.mp hread'
        obtain rfl := Option.some.inj (hfields'.symm.trans hfields'')
        rw [hlist', Option.mapM_some, hextended.2 hinterrupted] at hformats'
        cases hformats'

end Root

section Answer

/-- The second answer is the first one with further elements in its root, in its list of formats
and in the formats. -/
def AnswerExtended (body body' : String) : Prop :=
  ∃ name attributes parts parts', rootOf? body = some (.element name attributes parts) ∧
    rootOf? body' = some (.element name attributes parts') ∧ RootExtended parts parts'

/-- Whether something else stands between two formats of an answer. -/
def IsInterruptedAnswer (body : String) : Prop :=
  ∃ name attributes parts, rootOf? body = some (.element name attributes parts) ∧
    InterruptsFormats parts

theorem advertisedFormats_of_none {body : String} (h : Envelope.read? body = none) :
    advertisedFormats body = .error (.markup .malformed) := by
  rw [advertisedFormats, Envelope.read, h]
  rfl

theorem isInterruptedAnswer_iff {body name : String} {attributes : List Char} {parts : List Part}
    (hroot : rootOf? body = some (.element name attributes parts)) :
    IsInterruptedAnswer body ↔ InterruptsFormats parts := by
  constructor
  · rintro ⟨name', attributes', parts', hroot', hinterrupts⟩
    obtain ⟨-, -, rfl⟩ := Part.element.inj (Option.some.inj (hroot.symm.trans hroot'))
    exact hinterrupts
  · exact fun hinterrupts => ⟨name, attributes, parts, hroot, hinterrupts⟩

/-- What an answer that is accepted says. -/
theorem advertisedFormats_eq_ok_iff {body : String} {formats : AdvertisedFormats} :
    advertisedFormats body = .ok formats ↔
      ∃ envelope offered, Envelope.read? body = some envelope ∧ envelope.errors = [] ∧
        envelope.formats = some offered ∧
        formats = .ofList (offered.filterMap OfferedFormat.pair?) := by
  constructor
  · intro h
    cases henvelope : Envelope.read? body with
    | none =>
        rw [advertisedFormats_of_none henvelope] at h
        cases h
    | some envelope =>
        obtain ⟨errors, formats', name⟩ := envelope
        cases errors with
        | cons e errors =>
            rw [advertisedFormats, Envelope.read, henvelope] at h
            cases h
        | nil =>
            rw [advertisedFormats, Envelope.read, henvelope] at h
            cases formats' with
            | none => cases h
            | some offered =>
                obtain rfl := Except.ok.inj h
                exact ⟨_, offered, rfl, rfl, rfl, rfl⟩
  · rintro ⟨⟨errors, formats', name⟩, offered, henvelope, rfl, rfl, rfl⟩
    rw [advertisedFormats, Envelope.read, henvelope]
    rfl

/-- The envelope of an answer without errors is the same with further elements, as long as none
of them stands between two formats, and else there is none. -/
theorem Envelope.read?_extended {body body' : String} (h : AnswerExtended body body')
    {envelope : Envelope} (hread : Envelope.read? body = some envelope)
    (herrors : envelope.errors = []) :
    (¬IsInterruptedAnswer body' → Envelope.read? body' = some envelope) ∧
      (IsInterruptedAnswer body' → Envelope.read? body' = none) := by
  obtain ⟨name, attributes, parts, parts', hroot, hroot', hextended⟩ := h
  rw [read?_of_rootOf? hroot] at hread
  rw [read?_of_rootOf? hroot', isInterruptedAnswer_iff hroot']
  exact ofRoot?_extended ⟨attributes, parts⟩ ⟨attributes, parts'⟩ rfl hextended hread herrors

/-- The formats of an answer that is accepted are the same with any further elements in it, as
long as none of them stands between two formats. Then the answer is not accepted. -/
theorem advertisedFormats_extended {body body' : String} (h : AnswerExtended body body')
    {formats : AdvertisedFormats} (hread : advertisedFormats body = .ok formats) :
    (¬IsInterruptedAnswer body' → advertisedFormats body' = .ok formats) ∧
      (IsInterruptedAnswer body' → advertisedFormats body' = .error (.markup .malformed)) := by
  obtain ⟨envelope, offered, henvelope, herrors, hoffered, hformats⟩ :=
    advertisedFormats_eq_ok_iff.mp hread
  have hextended := Envelope.read?_extended h henvelope herrors
  constructor
  · intro hnot
    exact advertisedFormats_eq_ok_iff.mpr
      ⟨envelope, offered, hextended.1 hnot, herrors, hoffered, hformats⟩
  · intro hinterrupted
    exact advertisedFormats_of_none (hextended.2 hinterrupted)

/-- An element that is not known. -/
def furtherNode : Node :=
  .element ⟨"description", [], .ofNodes [.text "x", .element ⟨"error-free", [], .nil⟩]⟩

/-- The root of an answer with two formats: `front` stands before everything in the root, in the
list and in the first format, and `between` between the formats. -/
def spacedRoot (front between : List Node) : Element :=
  ⟨"OAI-PMH", [], .ofNodes (front ++ [.element ⟨"ListMetadataFormats", [], .ofNodes (front ++
    [.element ⟨"metadataFormat", [], .ofNodes (front ++
      [.element ⟨"metadataPrefix", [], .ofNodes [.text "a"]⟩,
        .element ⟨"metadataNamespace", [], .ofNodes [.text "n"]⟩])⟩] ++
    between ++ [.element (formatElement ("b", "m"))])⟩])⟩

def spacedAnswer (front between : List Node) : String :=
  String.ofList ((spacedRoot front between).declaring none none "u").written

theorem rootOf?_spacedAnswer (front between : List Node)
    (hplain : (spacedRoot front between).alone.isPlain = true)
    (hmerged : (spacedRoot front between).content.isMerged = true) :
    rootOf? (spacedAnswer front between) =
      some (.element "OAI-PMH" [] (spacedRoot front between).content.parts) :=
  rootOf?_of_written (isNamed_of_isPlain hplain) hmerged
    (Element.removeNamespaces_declaring hplain (by simp) (by simp) "u")

theorem advertisedFormats_spacedAnswer :
    advertisedFormats (spacedAnswer [] []) = .ok (.ofList [("a", "n"), ("b", "m")]) := by
  have hkept : keptPairs [("a", "n"), ("b", "m")] = [("a", "n"), ("b", "m")] := by decide +kernel
  rw [← hkept]
  exact advertisedFormats_eq (by simp) (by simp) "u" [("a", "n"), ("b", "m")]

theorem advertisedFormats_extended_spacedAnswer :
    AnswerExtended (spacedAnswer [] []) (spacedAnswer [furtherNode] []) ∧
      ¬IsInterruptedAnswer (spacedAnswer [furtherNode] []) ∧
      advertisedFormats (spacedAnswer [] []) = .ok (.ofList [("a", "n"), ("b", "m")]) ∧
      advertisedFormats (spacedAnswer [furtherNode] []) =
        .ok (.ofList [("a", "n"), ("b", "m")]) := by
  have hroot := rootOf?_spacedAnswer [] [] (by decide) (by decide)
  have hroot' := rootOf?_spacedAnswer [furtherNode] [] (by decide) (by decide)
  have hfurther : IsFurther (.element "description" []
      (Content.ofNodes [.text "x", .element ⟨"error-free", [], .nil⟩]).parts) :=
    .intro (by decide) (head?_parts _)
  have hextended : AnswerExtended (spacedAnswer [] []) (spacedAnswer [furtherNode] []) := by
    refine ⟨_, _, _, _, hroot, hroot', .further hfurther (.keep (.parts rfl ?_) .nil)⟩
    refine .further hfurther (.keep (.parts rfl ?_) (.keep (.same _) .nil))
    exact .further hfurther (.keep rfl (.keep rfl .nil))
  have hnot : ¬IsInterruptedAnswer (spacedAnswer [furtherNode] []) := by
    rw [isInterruptedAnswer_iff hroot']
    rintro ⟨list, ⟨name, hname, hmem⟩, hinterrupted⟩
    have hcases := List.mem_pair.mp hmem
    rcases hcases with heq | heq
    · obtain ⟨rfl, -⟩ := Part.element.inj heq
      exact absurd hname (by decide)
    · obtain ⟨-, -, hparts⟩ := Part.element.inj heq
      rw [hparts] at hinterrupted
      refine (keepsTogether_iff _ _).1.mp ?_ hinterrupted
      simp [KeepsTogether, isItem, Phase.next, furtherNode, formatElement, Content.ofNodes,
        Content.parts, afterFirstColon]
  exact ⟨hextended, hnot, advertisedFormats_spacedAnswer,
    (advertisedFormats_extended hextended advertisedFormats_spacedAnswer).1 hnot⟩

/-- Further elements can make an answer unreadable. -/
theorem not_advertisedFormats_extended :
    ¬∀ body body', AnswerExtended body body' → ∀ formats, advertisedFormats body = .ok formats →
      advertisedFormats body' = .ok formats := by
  intro h
  have hroot := rootOf?_spacedAnswer [] [] (by decide) (by decide)
  have hroot' := rootOf?_spacedAnswer [] [furtherNode] (by decide)
    (by decide)
  have hfurther : IsFurther (.element "description" []
      (Content.ofNodes [.text "x", .element ⟨"error-free", [], .nil⟩]).parts) :=
    .intro (by decide) (head?_parts _)
  have hextended : AnswerExtended (spacedAnswer [] []) (spacedAnswer [] [furtherNode]) := by
    refine ⟨_, _, _, _, hroot, hroot', .keep (.parts rfl ?_) .nil⟩
    exact .keep (.same _) (.further hfurther (.keep (.same _) .nil))
  have hinterrupted : IsInterruptedAnswer (spacedAnswer [] [furtherNode]) := by
    rw [isInterruptedAnswer_iff hroot']
    refine ⟨⟨[], _⟩, ⟨"ListMetadataFormats", rfl, List.mem_cons_self⟩, ?_⟩
    exact ⟨_, _, _, List.Sublist.refl _, by decide, by decide, by decide⟩
  obtain ⟨envelope, -, henvelope, herrors, -⟩ :=
    advertisedFormats_eq_ok_iff.mp advertisedFormats_spacedAnswer
  have hnone := (Envelope.read?_extended hextended henvelope herrors).2 hinterrupted
  have hok := h _ _ hextended _ advertisedFormats_spacedAnswer
  rw [advertisedFormats_of_none hnone] at hok
  cases hok

end Answer

end MetadataHarvest.Protocol
