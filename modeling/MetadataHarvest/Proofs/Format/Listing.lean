import MetadataHarvest.Proofs.Format.Offer
import MetadataHarvest.Proofs.Protocol.Fields
import MetadataHarvest.Proofs.Text.Words

/-!
# What a list of formats comes to

A repository lists its formats as pairs of a prefix and a namespace. Of these the pairs that are
not blank in either part are kept, without outer blanks, under each prefix the last one, and in
the order in which the prefixes first came. The prefix that the response itself uses for its
elements makes no difference.
-/

namespace MetadataHarvest

open Markup Protocol Text

namespace Registry

variable {α : Type}

/-- Of several entries with one key the last one is kept. -/
theorem get?_ofList (entries : List (String × α)) (key : String) :
    (ofList entries).get? key = entries.reverse.lookup key := by
  induction entries using List.reverseRecOn with
  | nil => rfl
  | append_singleton entries entry ih =>
      rw [ofList_append_singleton, List.reverse_append, List.reverse_singleton,
        List.singleton_append]
      by_cases hkey : key = entry.1
      · rw [hkey, get?_insert_self, List.lookup_cons, beq_self_eq_true]
      · rw [get?_insert_of_ne hkey, ih, List.lookup_cons, beq_false_of_ne hkey]

end Registry

namespace Protocol

section Response

/-- The element for a format: its prefix and its namespace, as they are given. -/
def formatElement (pair : String × String) : Element :=
  ⟨"metadataFormat", [], .ofNodes
    [.element ⟨"metadataPrefix", [], .ofNodes [.text pair.1]⟩,
      .element ⟨"metadataNamespace", [], .ofNodes [.text pair.2]⟩]⟩

/-- The list of formats that has these pairs. -/
def formatList (pairs : List (String × String)) : Content :=
  .ofNodes (pairs.map fun pair => .element (formatElement pair))

/-- The root of the response with this list. -/
def formatsRoot (pairs : List (String × String)) : Element :=
  ⟨"OAI-PMH", [], .ofNodes [.element ⟨"ListMetadataFormats", [], formatList pairs⟩]⟩

/-- The response in which every name has the prefix `q`, if there is one, and the root declares
a prefix or the namespace of names without one. -/
def formatsResponse (q declared : Option String) (uri : String) (pairs : List (String × String)) :
    String :=
  String.ofList ((formatsRoot pairs).declaring q declared uri).written

theorem formatList_cons (pair : String × String) (pairs : List (String × String)) :
    formatList (pair :: pairs) =
      .element "metadataFormat" [] (formatElement pair).content (formatList pairs) := rfl

theorem isPlain_formatList (pairs : List (String × String)) :
    (formatList pairs).isPlain = true := by
  have hnames : isPlainName "metadataFormat" = true ∧ isPlainName "metadataPrefix" = true ∧
      isPlainName "metadataNamespace" = true := by decide
  induction pairs with
  | nil => rfl
  | cons pair pairs ih =>
      have hformat : (formatElement pair).content.isPlain = true := by
        simp [formatElement, Content.ofNodes, Content.isPlain, hnames]
      simp [formatList_cons, Content.isPlain, hnames, hformat, ih]

theorem isPlain_formatsRoot (pairs : List (String × String)) :
    (formatsRoot pairs).alone.isPlain = true := by
  have hnames : isPlainName "OAI-PMH" = true ∧ isPlainName "ListMetadataFormats" = true := by decide
  simp [formatsRoot, Element.alone, Content.ofNodes, Content.isPlain, hnames, isPlain_formatList]

theorem isMerged_formatList (pairs : List (String × String)) :
    (formatList pairs).isMerged = true := by
  induction pairs with
  | nil => rfl
  | cons pair pairs ih => exact ih

theorem isMerged_formatsRoot (pairs : List (String × String)) :
    (formatsRoot pairs).content.isMerged = true := by
  simp [formatsRoot, Content.ofNodes, Content.isMerged, isMerged_formatList]

end Response

section Fields

/-- The parts of a text: none when it is white space alone. -/
def textParts (value : String) : List Part :=
  if value.toList.all isSpace then [] else [.text (some value)]

/-- What the element for a format holds when it is read. -/
def formatInterior (pair : String × String) : Interior :=
  ⟨[], [.element "metadataPrefix" [] (textParts pair.1),
    .element "metadataNamespace" [] (textParts pair.2)]⟩

/-- An item of a list, as a part. -/
def itemPart (item : String) (interior : Interior) : Part :=
  .element item interior.attributes interior.parts

theorem parts_formatList (pairs : List (String × String)) :
    (formatList pairs).parts = (pairs.map formatInterior).map (itemPart "metadataFormat") := by
  induction pairs with
  | nil => rfl
  | cons pair pairs ih =>
      have hformat : (formatElement pair).content.parts = (formatInterior pair).parts := by
        simp [formatElement, formatInterior, Content.ofNodes, Content.parts, textParts]
      rw [formatList_cons, Content.parts, ih, hformat]
      rfl

/-- Items that follow one another all go to the list that has begun. -/
theorem foldlM_step?_items (item : String) (known : List String)
    (before interiors : List Interior) :
    (interiors.map (itemPart item)).foldlM (Fields.step? (some item) known)
        ⟨[], some before, [], some item⟩ =
      some ⟨[], some (before ++ interiors), [], some item⟩ := by
  induction interiors generalizing before with
  | nil => simp
  | cons interior interiors ih =>
      rw [List.map_cons, List.foldlM_cons]
      have hstep : Fields.step? (some item) known ⟨[], some before, [], some item⟩
          (itemPart item interior) = some ⟨[], some (before ++ [interior]), [], some item⟩ := by
        simp [itemPart, Fields.step?]
      rw [hstep]
      simpa using ih (before ++ [interior])

/-- An element with nothing but a list has its items. -/
theorem read?_items {item : String} (hitem : afterFirstColon item = item) (known : List String)
    (interiors : List Interior) :
    ∃ fields, Fields.read? (some item) known ⟨[], interiors.map (itemPart item)⟩ = some fields ∧
      fields.items.getD [] = interiors := by
  cases interiors with
  | nil => exact ⟨.empty, by simp [Fields.read?], rfl⟩
  | cons interior interiors =>
      have hstep : Fields.step? (some item) known .empty (itemPart item interior) =
          some ⟨[], some [interior], [], some item⟩ := by
        simp [itemPart, Fields.step?, Fields.empty, hitem]
      have hitems := foldlM_step?_items item known [interior] interiors
      refine ⟨⟨[], some ([interior] ++ interiors), [], some item⟩, ?_, rfl⟩
      rw [Fields.read?, rawAttributes?_nil, Option.bind_some, List.map_cons, List.foldlM_cons,
        hstep]
      exact hitems

/-- Fields that are known and differ are all there. -/
theorem read?_fields {first second : String} (hfirst : afterFirstColon first = first)
    (hsecond : afterFirstColon second = second) (hne : first ≠ second) {known : List String}
    (hknown : first ∈ known ∧ second ∈ known) (parts parts' : List Part) :
    Fields.read? none known ⟨[], [.element first [] parts, .element second [] parts']⟩ =
      some ⟨[], none, [(first, ⟨[], parts⟩), (second, ⟨[], parts'⟩)], none⟩ := by
  have hlookup : (second == first) = false := beq_false_of_ne (Ne.symm hne)
  simp [Fields.read?, Fields.step?, Fields.empty, hfirst, hsecond, hknown, List.lookup_cons,
    hlookup]

/-- What is read of a text in a field: nothing when it is white space alone. -/
def shownText (value : String) : String := if value.toList.all isSpace then "" else value

theorem text?_of_lookup {f : Fields} {name value : String}
    (h : f.singles.lookup name = some ⟨[], textParts value⟩) :
    f.text? name = some (shownText value) := by
  cases hspace : value.toList.all isSpace with
  | true => simp only [Fields.text?, h, Option.map_some, textParts, shownText, hspace, if_true]
  | false => simp [Fields.text?, h, textParts, shownText, hspace]

theorem read?_formatInterior (pair : String × String) :
    OfferedFormat.read? (formatInterior pair) =
      some ⟨shownText pair.1, shownText pair.2⟩ := by
  have hprefix : afterFirstColon "metadataPrefix" = "metadataPrefix" := by decide
  have hnamespace : afterFirstColon "metadataNamespace" = "metadataNamespace" := by decide
  let known := ["metadataPrefix", "metadataNamespace", "schema"]
  have hknown : "metadataPrefix" ∈ known ∧ "metadataNamespace" ∈ known := by decide
  let fields : Fields := ⟨[], none, [("metadataPrefix", ⟨[], textParts pair.1⟩),
    ("metadataNamespace", ⟨[], textParts pair.2⟩)], none⟩
  have hfields : Fields.read? none known (formatInterior pair) = some fields :=
    read?_fields hprefix hnamespace (by decide) hknown _ _
  have hfirst : fields.text? "metadataPrefix" = some (shownText pair.1) := text?_of_lookup rfl
  have hsecond : fields.text? "metadataNamespace" = some (shownText pair.2) :=
    text?_of_lookup rfl
  have hschema : fields.text? "schema" = some "" := rfl
  rw [OfferedFormat.read?, hfields]
  simp only [Option.bind_eq_bind, Option.bind_some, hschema, hfirst, hsecond]
  rfl

theorem mapM_read?_formatInterior (pairs : List (String × String)) :
    (pairs.map formatInterior).mapM OfferedFormat.read? =
      some (pairs.map fun pair => ⟨shownText pair.1, shownText pair.2⟩) := by
  induction pairs with
  | nil => rfl
  | cons pair pairs ih =>
      rw [List.map_cons, List.mapM_cons, read?_formatInterior, ih]
      rfl

/-- The elements that are known in the root of a response. -/
def rootNames : List String := ["error", "ListMetadataFormats", "Identify"]

/-- The envelope of a response with a list of formats among elements that are not known. -/
theorem ofRoot?_formatList (around : Around rootNames) (pairs : List (String × String)) :
    Envelope.ofRoot? ⟨[], around.before.parts ++
        .element "ListMetadataFormats" [] (formatList pairs).parts :: around.after.parts⟩ =
      some ⟨[], some (pairs.map fun pair => ⟨shownText pair.1, shownText pair.2⟩), none⟩ := by
  have hitem : afterFirstColon "metadataFormat" = "metadataFormat" := by decide
  obtain ⟨texts, hroot⟩ := read?_single (some "error")
    ["ListMetadataFormats", "Identify"] "ListMetadataFormats" (by decide) (by decide) (by decide)
      around (formatList pairs).parts
  obtain ⟨fields, hfields, hitems⟩ := read?_items hitem [] (pairs.map formatInterior)
  rw [← parts_formatList] at hfields
  have hformats : (fields.items.getD []).mapM OfferedFormat.read? =
      some (pairs.map fun pair => ⟨shownText pair.1, shownText pair.2⟩) := by
    rw [hitems, mapM_read?_formatInterior]
  let list : Interior := ⟨[], (formatList pairs).parts⟩
  have hsingle :
      List.lookup "ListMetadataFormats" [("ListMetadataFormats", list)] = some list := rfl
  have hidentify : List.lookup "Identify" [("ListMetadataFormats", list)] = none := rfl
  rw [Envelope.ofRoot?, hroot]
  simp only [Option.bind_eq_bind, Option.bind_some, hsingle, hidentify, Option.mapM_some, list,
    hfields, hformats]
  rfl

/-- The envelope of a response with nothing but a list of formats. -/
theorem ofRoot?_formatsRoot (pairs : List (String × String)) :
    Envelope.ofRoot? ⟨[], (formatsRoot pairs).content.parts⟩ =
      some ⟨[], some (pairs.map fun pair => ⟨shownText pair.1, shownText pair.2⟩), none⟩ :=
  ofRoot?_formatList (.nothing rootNames) pairs

end Fields

section Kept

/-- The pairs that are kept, without their outer blanks. -/
def keptPairs (pairs : List (String × String)) : List (String × String) :=
  (pairs.map fun pair => (trimmed pair.1, trimmed pair.2)).filter fun pair =>
    pair.1 ≠ "" ∧ pair.2 ≠ ""

/-- White space alone is blank, whether it is read or not. -/
theorem nonBlank?_shownText (value : String) : nonBlank? (shownText value) = nonBlank? value := by
  unfold shownText
  split
  · next hspace =>
      have hblank : trim value.toList = [] := by
        apply trim_eq_nil
        rw [List.filter_eq_nil_iff]
        intro c hc
        simp [isBlank_of_isSpace (List.all_eq_true.mp hspace c hc)]
      have htrimmed : trimmed value = "" := by
        rw [trimmed, hblank]
      rw [nonBlank?_of_blank htrimmed, nonBlank?_empty]
  · rfl

theorem pair?_shownText (pair : String × String) :
    OfferedFormat.pair? ⟨shownText pair.1, shownText pair.2⟩ =
      if trimmed pair.1 ≠ "" ∧ trimmed pair.2 ≠ "" then some (trimmed pair.1, trimmed pair.2)
      else none := by
  rw [OfferedFormat.pair?, nonBlank?_shownText, nonBlank?_shownText]
  by_cases hfirst : trimmed pair.1 = ""
  · simp [nonBlank?_of_blank hfirst, hfirst]
  · by_cases hsecond : trimmed pair.2 = ""
    · simp [nonBlank?_of_blank hsecond, nonBlank?_of_shown hfirst, hsecond]
    · simp [nonBlank?_of_shown hfirst, nonBlank?_of_shown hsecond, hfirst, hsecond]

theorem filterMap_pair? (pairs : List (String × String)) :
    (pairs.map fun pair => OfferedFormat.mk (shownText pair.1) (shownText pair.2)).filterMap
      OfferedFormat.pair? = keptPairs pairs := by
  induction pairs with
  | nil => rfl
  | cons pair pairs ih =>
      rw [List.map_cons, List.filterMap_cons, pair?_shownText, ih, keptPairs, keptPairs,
        List.map_cons, List.filter_cons]
      by_cases hkept : trimmed pair.1 ≠ "" ∧ trimmed pair.2 ≠ ""
      · simp [hkept]
      · simp [hkept]

/-- A response comes to the pairs that are kept. -/
theorem advertisedFormats_eq {q declared : Option String} (hq : ∀ p ∈ q, isPlainName p = true)
    (hdeclared : ∀ p ∈ declared, isPlainName p = true) (uri : String)
    (pairs : List (String × String)) :
    advertisedFormats (formatsResponse q declared uri pairs) = .ok (.ofList (keptPairs pairs)) := by
  have hplain := isPlain_formatsRoot pairs
  have hread : Envelope.read? (formatsResponse q declared uri pairs) =
      some ⟨[], some (pairs.map fun pair => ⟨shownText pair.1, shownText pair.2⟩), none⟩ := by
    rw [← ofRoot?_formatsRoot]
    exact Envelope.read?_of_written (isNamed_of_isPlain hplain) (isMerged_formatsRoot pairs)
      (Element.removeNamespaces_declaring hplain hq hdeclared uri)
  have hok : Envelope.read (formatsResponse q declared uri pairs) =
      .ok ⟨[], some (pairs.map fun pair => ⟨shownText pair.1, shownText pair.2⟩), none⟩ := by
    rw [Envelope.read, hread]
  rw [advertisedFormats, hok, ← filterMap_pair?]
  rfl

end Kept

/-- What the response with a list of pairs of any strings comes to. It is the same whichever
prefix the response uses and declares, and none: the pairs that are not blank in either part,
without outer blanks, each prefix once, in the order in which the prefixes first came, and with
the namespace that came last. -/
theorem advertisedFormats_formatsResponse (pairs : List (String × String)) :
    ∃ formats : AdvertisedFormats,
      (∀ q declared uri, (∀ p ∈ q, isPlainName p = true) →
        (∀ p ∈ declared, isPlainName p = true) →
        advertisedFormats (formatsResponse q declared uri pairs) = .ok formats) ∧
      formats.toList.map (·.1) = ((keptPairs pairs).map (·.1)).eraseDups ∧
      (formats.toList.map (·.1)).Nodup ∧
      ∀ format ∈ formats.toList, (keptPairs pairs).reverse.lookup format.1 = some format.2 := by
  refine ⟨.ofList (keptPairs pairs), ?_, ?_, ?_, ?_⟩
  · intro q declared uri hq hdeclared
    exact advertisedFormats_eq hq hdeclared uri pairs
  · exact Registry.keys_ofList (keptPairs pairs)
  · exact (Registry.ofList (keptPairs pairs)).nodup
  · intro format hmem
    rw [← Registry.get?_ofList]
    exact Registry.get?_of_mem hmem

/-- A list with outer blanks, a prefix that comes twice, a blank namespace, and a namespace that
looks like a declaration. -/
def mixedPairs : List (String × String) :=
  [(" a\n", "first"), ("b<", "q:x xmlns=\"y\" "), ("c", " \t"), ("a", "last")]

theorem advertisedFormats_formatsResponse_mixedPairs :
    isPlainName "oai" = true ∧ ∃ formats : AdvertisedFormats,
      advertisedFormats (formatsResponse (some "oai") (some "oai") "u" mixedPairs) =
        .ok formats ∧
      advertisedFormats (formatsResponse none none "u" mixedPairs) = .ok formats ∧
      formats.toList.map (·.1) = ["a", "b<"] ∧
      ∀ format ∈ formats.toList,
        [("a", "last"), ("b<", "q:x xmlns=\"y\""), ("a", "first")].lookup format.1 =
          some format.2 := by
  have hname : isPlainName "oai" = true := by decide
  have hkept : keptPairs mixedPairs =
      [("a", "first"), ("b<", "q:x xmlns=\"y\""), ("a", "last")] := by
    decide +kernel
  obtain ⟨formats, hformats, hkeys, -, hlast⟩ := advertisedFormats_formatsResponse mixedPairs
  rw [hkept] at hkeys hlast
  refine ⟨hname, formats, hformats _ _ "u" ?_ ?_, hformats none none "u" (by simp) (by simp),
    hkeys, hlast⟩
  · simpa using hname
  · simpa using hname

end Protocol

end MetadataHarvest
