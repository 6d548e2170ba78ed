import MetadataHarvest.Proofs.Format.Listing
import MetadataHarvest.Proofs.Protocol.Context
import MetadataHarvest.Proofs.Repository.Requests

/-!
# The wording of names and formats

What a repository calls itself, and the prefixes and namespaces that it lists, arrive as they
are worded when nothing in them looks like a namespace. Otherwise what looks like one is lost.
-/

namespace MetadataHarvest

open Markup Protocol Text

section Places

/-- The place of the name that a repository gives itself, among elements that are not known. -/
def nameContext (outer : Around rootNames) (inner : Around ["repositoryName"]) : Context :=
  .behind outer.before (.inside "Identify"
    (.behind inner.before (.inside "repositoryName" (.here .nil) inner.after)) outer.after)

/-- The fields of a format that are used. -/
inductive FormatField where
  | metadataPrefix
  | metadataNamespace
  deriving DecidableEq

namespace FormatField

/-- The format with a value in a field and another one in the other field. -/
def pair (field : FormatField) (value other : String) : String × String :=
  match field with
  | metadataPrefix => (value, other)
  | metadataNamespace => (other, value)

/-- The place of a field in the element for a format. -/
def context (field : FormatField) (other : String) : Context :=
  match field with
  | metadataPrefix => .inside "metadataPrefix" (.here .nil)
      (.element "metadataNamespace" [] (.text other .nil) .nil)
  | metadataNamespace => .afterElement "metadataPrefix" (.text other .nil)
      (.inside "metadataNamespace" (.here .nil) .nil)

theorem fill_context (field : FormatField) (other value : String) :
    (field.context other).fill value = (formatElement (field.pair value other)).content := by
  cases field <;> rfl

end FormatField

/-- The place of a field in a list of formats, with formats before and after it and the list
among elements that are not known. -/
def formatContext (outer : Around rootNames) (before after : List (String × String))
    (field : FormatField) (other : String) : Context :=
  .behind outer.before (.inside "ListMetadataFormats"
    (.behind (formatList before)
      (.inside "metadataFormat" (field.context other) (formatList after))) outer.after)

variable (outer : Around rootNames) (inner : Around ["repositoryName"])
  (before after : List (String × String)) (field : FormatField) (other value : String)

theorem isPlain_nameContext : ((nameContext outer inner).fill value).isPlain = true := by
  have hnames : isPlainName "Identify" = true ∧ isPlainName "repositoryName" = true := by decide
  apply Context.isPlain_behind outer.plain.1
  have hinner : ((Context.behind inner.before
      (.inside "repositoryName" (.here .nil) inner.after)).fill value).isPlain = true :=
    Context.isPlain_behind inner.plain.1
      (by simp [Context.fill, Content.isPlain, hnames, inner.plain.2])
  simp [Context.fill, Content.isPlain, hnames, hinner, outer.plain.2]

theorem isMerged_nameContext : ((nameContext outer inner).fill value).isMerged = true := by
  apply Context.isMerged_behind outer.merged.1
  · have hinner : ((Context.behind inner.before
        (.inside "repositoryName" (.here .nil) inner.after)).fill value).isMerged = true :=
      Context.isMerged_behind inner.merged.1
        (by simp [Context.fill, Content.isMerged, inner.merged.2, Content.beginsWithText]) rfl
    simp [Context.fill, Content.isMerged, hinner, outer.merged.2]
  · rfl

theorem fill_formatContext :
    ((Context.behind (formatList before)
      (.inside "metadataFormat" (field.context other) (formatList after))).fill value) =
      formatList (before ++ field.pair value other :: after) := by
  induction before with
  | nil =>
      rw [List.nil_append, formatList_cons, ← field.fill_context]
      rfl
  | cons pair before ih =>
      rw [List.cons_append, formatList_cons, formatList_cons, Context.behind, Context.fill, ih]

theorem isPlain_formatContext :
    ((formatContext outer before after field other).fill value).isPlain = true := by
  have hname : isPlainName "ListMetadataFormats" = true := by decide
  apply Context.isPlain_behind outer.plain.1
  rw [Context.fill, fill_formatContext]
  simp [Content.isPlain, hname, isPlain_formatList, outer.plain.2]

theorem isMerged_formatContext :
    ((formatContext outer before after field other).fill value).isMerged = true := by
  apply Context.isMerged_behind outer.merged.1
  · rw [Context.fill, fill_formatContext]
    simp [Content.isMerged, isMerged_formatList, outer.merged.2]
  · rfl

/-- The envelope of a response with a name is one with this name. -/
theorem ofRoot?_nameContext :
    Envelope.ofRoot? ⟨[], ((nameContext outer inner).fill value).parts⟩ =
      some ⟨[], none, some (shownText value)⟩ := by
  have hparts : ((nameContext outer inner).fill value).parts =
      outer.before.parts ++ .element "Identify" [] (inner.before.parts ++
        .element "repositoryName" [] (textParts value) :: inner.after.parts) ::
          outer.after.parts := by
    rw [nameContext, Context.parts_behind outer.plain.1, Context.fill, Content.parts,
      Context.parts_behind inner.plain.1]
    simp [Context.fill, Content.parts, textParts]
  obtain ⟨texts, hroot⟩ := read?_single (some "error")
    ["ListMetadataFormats", "Identify"] "Identify" (by decide) (by decide) (by decide) outer
      (inner.before.parts ++ .element "repositoryName" [] (textParts value) :: inner.after.parts)
  obtain ⟨texts', hidentity⟩ := read?_single none ["repositoryName"] "repositoryName"
    (by decide) (by decide) (by decide) inner (textParts value)
  have htext : (⟨texts', none, [("repositoryName", ⟨[], textParts value⟩)], none⟩ : Fields).text?
      "repositoryName" = some (shownText value) := text?_of_lookup rfl
  let identity : Interior := ⟨[], inner.before.parts ++
    .element "repositoryName" [] (textParts value) :: inner.after.parts⟩
  have hsingle : List.lookup "Identify" [("Identify", identity)] = some identity := rfl
  have hlist : List.lookup "ListMetadataFormats" [("Identify", identity)] = none := rfl
  rw [hparts, Envelope.ofRoot?, hroot]
  simp only [Option.bind_eq_bind, Option.bind_some, hsingle, hlist, Option.mapM_some, identity,
    hidentity, htext]
  rfl

/-- The envelope of a response with a format is one with this format among the others. -/
theorem ofRoot?_formatContext :
    Envelope.ofRoot? ⟨[], ((formatContext outer before after field other).fill value).parts⟩ =
      some ⟨[], some ((before ++ field.pair value other :: after).map fun pair =>
        ⟨shownText pair.1, shownText pair.2⟩), none⟩ := by
  rw [formatContext, Context.parts_behind outer.plain.1, Context.fill, Content.parts,
    fill_formatContext, ← ofRoot?_formatList outer]
  rfl

end Places

section Arrival

/-- A repository is called by the name that it gives itself, or after its host. -/
theorem Repository.run_name (r : Repository) (address : String) (before : List String) :
    ((r.name address).run before).1 =
      ((((r.ask address .identify).run before).1.toOption.bind ownName?).getD
        (HostName.ofAddress address)) := by
  simp only [name, StateT.run_bind, StateT.run_pure]
  rfl

/-- Whether `w` arrives where a response carries `v` in a style: in every response it is read in
the place of `v`, it is what the repository is called, and it is what is listed as a prefix or as
a namespace. The responses have no attributes and any prefix at their names. -/
structure Arrives (style : TextStyle) (v w : String) : Prop where
  envelope {k : Context} (hplain : (k.fill "").isPlain = true)
    (hmerged : (k.fill "").isMerged = true) {root : String} (hroot : isPlainName root = true)
    {q declared : Option String} (hq : ∀ p ∈ q, isPlainName p = true)
    (hdeclared : ∀ p ∈ declared, isPlainName p = true) (uri : String) :
    Envelope.read? (k.response root q declared uri (style.written v.toList)) =
      Envelope.read? (k.response root q declared uri (escape w.toList))
  name (outer : Around rootNames) (inner : Around ["repositoryName"]) {root : String}
    (hroot : isPlainName root = true) {q declared : Option String}
    (hq : ∀ p ∈ q, isPlainName p = true) (hdeclared : ∀ p ∈ declared, isPlainName p = true)
    (uri : String) (r : Repository) (address : String) (before : List String)
    (hanswer : ((r.ask address .identify).run before).1 =
      .ok ((nameContext outer inner).response root q declared uri (style.written v.toList))) :
    ((r.name address).run before).1 = w
  format (outer : Around rootNames) (before after : List (String × String)) (field : FormatField)
    (other : String) {root : String} (hroot : isPlainName root = true)
    {q declared : Option String} (hq : ∀ p ∈ q, isPlainName p = true)
    (hdeclared : ∀ p ∈ declared, isPlainName p = true) (uri : String) :
    ∃ formats, advertisedFormats ((formatContext outer before after field other).response root q
        declared uri (style.written v.toList)) = .ok formats ∧
      formats = .ofList (keptPairs (before ++ field.pair w other :: after)) ∧
      (trimmed other ≠ "" →
        (∀ pair ∈ after, trimmed pair.1 ≠ (field.pair w (trimmed other)).1) →
          field.pair w (trimmed other) ∈ formats.toList)

/-- The last pair with a prefix is listed. -/
theorem mem_toList_ofList {before after : List (String × String)} {pair : String × String}
    (h : ∀ later ∈ after, later.1 ≠ pair.1) :
    pair ∈ (AdvertisedFormats.ofList (before ++ pair :: after)).toList := by
  have hlast : (before ++ pair :: after).reverse.lookup pair.1 = some pair.2 := by
    refine List.lookup_eq_some_iff.mpr ⟨after.reverse, before.reverse, by simp, ?_⟩
    intro later hmem
    rw [bne_iff_ne]
    exact Ne.symm (h later (List.mem_reverse.mp hmem))
  rw [← Registry.get?_ofList, Registry.get?] at hlast
  obtain ⟨front, back, hentries, -⟩ := List.lookup_eq_some_iff.mp hlast
  rw [AdvertisedFormats.toList, AdvertisedFormats.ofList, hentries]
  simp

theorem keptPairs_append (pairs pairs' : List (String × String)) :
    keptPairs (pairs ++ pairs') = keptPairs pairs ++ keptPairs pairs' := by
  simp [keptPairs]

theorem keptPairs_cons {pair : String × String} (h : trimmed pair.1 ≠ "" ∧ trimmed pair.2 ≠ "")
    (pairs : List (String × String)) :
    keptPairs (pair :: pairs) = (trimmed pair.1, trimmed pair.2) :: keptPairs pairs := by
  simp [keptPairs, h]

variable {style : TextStyle} {v : String}

/-- What is left of a text arrives. -/
theorem arrives_left {left : String} (hne : v ≠ "") (htrim : trimmed v = v)
    (hleft : style.left v.toList = left.toList) (hpermits : style.Permits left.toList) :
    Arrives style v left := by
  have htrim' : trim v.toList = v.toList := by rw [← toList_trimmed, htrim]
  obtain ⟨htrimLeft, hshown⟩ := style.trim_left htrim' (by simpa using hne)
  rw [hleft] at htrimLeft hshown
  have hself : trimmed left = left := by rw [trimmed, htrimLeft, String.ofList_toList]
  have hfilled : left ≠ "" := by
    rintro rfl
    cases hshown
  have hsame : shownText left = left := by rw [shownText, hshown]; rfl
  constructor
  case envelope =>
    intro k hplain hmerged root hroot q declared hq hdeclared uri
    rw [k.isPlain_fill "" left] at hplain
    rw [k.isMerged_fill "" left] at hmerged
    rw [Context.read?_response hleft hshown hpermits hplain hmerged hroot hq hdeclared,
      Context.read?_escaped hplain hmerged hroot hq hdeclared]
  case name =>
    intro outer inner root hroot q declared hq hdeclared uri r address before hanswer
    have hread := Context.read?_response hleft hshown hpermits
      (isPlain_nameContext outer inner left) (isMerged_nameContext outer inner left) hroot hq
      hdeclared uri
    rw [ofRoot?_nameContext, hsame] at hread
    have hok : Envelope.read ((nameContext outer inner).response root q declared uri
        (style.written v.toList)) = .ok ⟨[], none, some left⟩ := by
      rw [Envelope.read, hread]
    have hname : nonBlank? left = some left := nonBlank?_eq_some_iff.mpr ⟨hself, hfilled⟩
    rw [Repository.run_name, hanswer]
    simp [Except.toOption, Repository.ownName?, hok, hname]
  case format =>
    intro outer before after field other root hroot q declared hq hdeclared uri
    have hread := Context.read?_response hleft hshown hpermits
      (isPlain_formatContext outer before after field other left)
      (isMerged_formatContext outer before after field other left) hroot hq hdeclared uri
    rw [ofRoot?_formatContext] at hread
    refine ⟨_, ?_, rfl, ?_⟩
    · rw [advertisedFormats, Envelope.read, hread, ← filterMap_pair?]
      rfl
    · intro hother hafter
      have hkept : keptPairs (field.pair left other :: after) =
          field.pair left (trimmed other) :: keptPairs after := by
        rw [keptPairs_cons]
        · cases field <;> simp [FormatField.pair, hself]
        · cases field <;> simp [FormatField.pair, hself, hfilled, hother]
      rw [keptPairs_append, hkept]
      apply mem_toList_ofList
      intro later hlater
      obtain ⟨pair, hpair, rfl⟩ := List.mem_map.mp (List.mem_filter.mp hlater).1
      exact hafter pair hpair

/-- A text arrives as it is when nothing in it looks like a namespace in its style. When something
does, what is left of the text without it arrives, which is another text, unless it could not be
written so itself. -/
theorem arrives_of_permits (hne : v ≠ "") (htrim : trimmed v = v)
    (hpermits : style.Permits v.toList) :
    (¬style.HasLookalike v.toList → Arrives style v v) ∧
      (style.HasLookalike v.toList → ∃ left : String, left ≠ v ∧
        left.toList = style.left v.toList ∧
        (style.Permits left.toList → Arrives style v left)) := by
  constructor
  · intro h
    exact arrives_left hne htrim (TextStyle.left_eq_self_iff.mpr h) hpermits
  · intro h
    refine ⟨String.ofList (style.left v.toList), ?_, by simp, fun hleft =>
      arrives_left hne htrim (by simp) hleft⟩
    intro hsame
    have hleft := congrArg String.toList hsame
    rw [String.toList_ofList] at hleft
    exact TextStyle.left_eq_self_iff.mp hleft h

/-- A title in which something looks like a declaration and something like a tag. -/
def taggedTitle : String := "x xmlns=\"y\" <a:b>"

theorem arrives_of_permits_taggedTitle :
    taggedTitle ≠ "" ∧ trimmed taggedTitle = taggedTitle ∧
      TextStyle.cdata.Permits taggedTitle.toList ∧
      TextStyle.cdata.HasLookalike taggedTitle.toList ∧ Arrives .cdata taggedTitle "x <b>" := by
  have hne : taggedTitle ≠ "" := by decide
  have htrim : trimmed taggedTitle = taggedTitle := by decide +kernel
  have hpermits : TextStyle.cdata.Permits taggedTitle.toList :=
    TextStyle.permits_of_not_mem (by decide)
  have hleft : TextStyle.cdata.left taggedTitle.toList = "x <b>".toList := by decide +kernel
  have hlookalike : TextStyle.cdata.HasLookalike taggedTitle.toList := by
    apply Classical.not_not.mp
    rw [← TextStyle.left_eq_self_iff, hleft]
    decide
  obtain ⟨left, -, hsame, harrives⟩ := (arrives_of_permits hne htrim hpermits).2 hlookalike
  obtain rfl : left = "x <b>" := String.toList_injective (hsame.trans hleft)
  exact ⟨hne, htrim, hpermits, hlookalike, harrives (TextStyle.permits_of_not_mem (by decide))⟩

/-- A repository is not always called what it says in its answer. -/
theorem not_name_eq_of_carried :
    ¬∀ (v : String) (r : Repository) (address : String) (before : List String),
      v ≠ "" → trimmed v = v →
      ((r.ask address .identify).run before).1 =
        .ok ((nameContext (.nothing rootNames) (.nothing _)).response "OAI-PMH" none none "u"
          (TextStyle.characterData.written v.toList)) →
      ((r.name address).run before).1 = v := by
  intro h
  let v := "a xmlns=\"b\" c"
  let body := (nameContext (.nothing rootNames) (.nothing _)).response "OAI-PMH" none none "u"
    (TextStyle.characterData.written v.toList)
  let r : Repository := ⟨fun _ _ => .ok body⟩
  have hne : v ≠ "" := by decide
  have htrim : trimmed v = v := by decide +kernel
  have hanswer : ((r.ask "h" .identify).run []).1 = .ok body := by
    rw [Repository.run_ask]
    rfl
  have harrives : Arrives .characterData v "a c" :=
    arrives_left hne htrim (by decide +kernel) trivial
  have hname := harrives.name (.nothing rootNames) (.nothing _) (by decide) (by simp) (by simp) "u"
    r "h" [] hanswer
  rw [h v r "h" [] hne htrim hanswer] at hname
  exact absurd hname (by decide)

end Arrival

end MetadataHarvest
