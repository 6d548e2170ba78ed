import MetadataHarvest.Proofs.Record.Iso19139

/-!
# How the fields of geographic documents agree

Some fields of a document are made from one source, and others are made from several. The contact
organisation is both creator and publisher. The link to the data needs an address, which the
metadata names, and takes its label from the title of the document.
-/

namespace MetadataHarvest.Iso19139

open Markup Record

/-- The text of the first link to the data, whether or not it is an address. -/
def linkage? (record : Element) : Option String :=
  (metadata? record).bind fun metadata =>
    firstTextBelow? metadata ["gmd:distributionInfo", "gmd:onLine", "gmd:linkage"] "gmd:URL"

/-- How the fields of the document of a record depend on each other, for the repository with this
identifier. -/
structure Agree (repositoryIdentifier : String) (record : Element) (d : Document) : Prop where
  repositoryIdentifier : d.repositoryIdentifier = some repositoryIdentifier
  creators : d.creators.length ≤ 1
  titles : d.titles.length ≤ 1
  descriptions : d.descriptions.length ≤ 1
  /-- The publisher is the creator, or both are missing. -/
  publisher : d.publisher = d.creators.head?
  /-- A link to the data is the first one in the metadata, if that is an address, with the title
  of the document. -/
  links : ∀ link, link ∈ d.researchData ↔
    linkage? record = some link.url ∧ Url.isAddress link.url = true ∧ link.title ∈ d.titles
  researchData : d.researchData.length ≤ 1
  dates : ∀ date ∈ d.dates, date.type ∈ [.created, .issued, .updated]
  webLinks : d.webLinks = []
  relatedIdentifiers : d.relatedIdentifiers = []
  subjects : d.subjects = []
  contributors : d.contributors = []
  formats : d.formats = []
  language : d.language = none

variable {metadata record : Element} {title : Option String} {link : ResearchData}
  {date : Element} {entry : TypedDate}

/-- A link to the data needs an address and a title. -/
theorem researchData?_eq_some_iff :
    researchData? metadata title = some link ↔
      firstTextBelow? metadata ["gmd:distributionInfo", "gmd:onLine", "gmd:linkage"] "gmd:URL" =
        some link.url ∧ Url.isAddress link.url = true ∧ title = some link.title := by
  have hnames : Selector.names "gmd:distributionInfo gmd:onLine gmd:linkage gmd:URL" =
      ["gmd:distributionInfo", "gmd:onLine", "gmd:linkage"] ++ ["gmd:URL"] := by decide
  obtain ⟨url, label⟩ := link
  simp only [researchData?, firstText?_eq hnames, bind, Option.bind_eq_some_iff,
    Option.ite_none_right_eq_some, Option.some.injEq, ResearchData.mk.injEq]
  constructor
  · rintro ⟨url', hurl, label', hlabel, haddress, rfl, rfl⟩
    exact ⟨hurl, haddress, hlabel⟩
  · rintro ⟨hurl, haddress, hlabel⟩
    exact ⟨url, hurl, label, hlabel, haddress, rfl, rfl⟩

theorem type_mem_of_citationDate? (h : citationDate? date = some entry) :
    entry.type ∈ [.created, .issued, .updated] := by
  obtain ⟨⟨e, -, hcode⟩, -⟩ := citationDate?_eq_some_iff.mp h
  exact List.mem_map_of_mem (f := Prod.snd) hcode

theorem length_toList_le {α : Type} (a : Option α) : a.toList.length ≤ 1 := by
  cases a <;> simp

/-- A record without metadata gives none of the fields that could disagree. -/
theorem agree_repository (repositoryIdentifier : String) (h : metadata? record = none) :
    Agree repositoryIdentifier record { repositoryIdentifier := some repositoryIdentifier } := by
  constructor
  case links =>
    intro link
    rw [linkage?, h]
    simp
  all_goals simp

theorem agree_addMetadata (repositoryIdentifier : String) (h : metadata? record = some metadata) :
    Agree repositoryIdentifier record
      (addMetadata { repositoryIdentifier := some repositoryIdentifier } metadata) := by
  constructor
  case creators | titles | descriptions | researchData =>
    simp only [addMetadata, length_toList_le]
  case publisher => simp only [addMetadata, Option.head?_toList]
  case links =>
    intro link
    rw [linkage?, h, Option.bind_some]
    simp only [addMetadata, Option.mem_toList]
    exact researchData?_eq_some_iff
  case dates =>
    intro entry hentry
    obtain ⟨date, -, hdate⟩ := List.mem_filterMap.mp hentry
    exact type_mem_of_citationDate? hdate
  all_goals rfl

/-- The fields of a document that a geographic record becomes agree. -/
theorem transform_agree {repositoryIdentifier : String} {d : Document}
    (h : (Transformer.iso19139 repositoryIdentifier).transform record = some d) :
    Agree repositoryIdentifier record d := by
  rw [Transformer.transform, document?] at h
  split at h
  · cases h
  · cases h
    split
    · next hmetadata => exact agree_repository repositoryIdentifier hmetadata
    · next metadata hmetadata => exact agree_addMetadata repositoryIdentifier hmetadata

/-- Metadata with an organisation, two titles, and two links to the data. -/
def linkedMetadata : Element :=
  let text (value : String) : Content :=
    .ofNodes [.element ⟨"gco:CharacterString", [], .ofNodes [.text value]⟩]
  let link (value : String) : Node :=
    .element ⟨"gmd:linkage", [], .ofNodes [.element ⟨"gmd:URL", [], .ofNodes [.text value]⟩]⟩
  ⟨"metadata", [], .ofNodes [
    .element ⟨"gmd:contact", [], .ofNodes [.element ⟨"gmd:organisationName", [], text "Archive"⟩]⟩,
    .element ⟨"gmd:identificationInfo", [], .ofNodes [
      .element ⟨"gmd:citation", [], .ofNodes [
        .element ⟨"gmd:title", [], text " Ice  cores "⟩,
        .element ⟨"gmd:title", [], text "Cores"⟩]⟩]⟩,
    .element ⟨"gmd:distributionInfo", [], .ofNodes [
      .element ⟨"gmd:onLine", [], .ofNodes [link "doi:10.5072/ice", link "doi:10.5072/cores"]⟩]⟩]⟩

theorem transform_agree_linked :
    let record : Element := ⟨"record", [], .ofNodes [.element linkedMetadata]⟩
    ∃ d, (Transformer.iso19139 "archive").transform record = some d ∧ Agree "archive" record d ∧
      d.creators = ["Archive"] ∧ d.publisher = some "Archive" ∧
      ⟨"doi:10.5072/ice", "Ice cores"⟩ ∈ d.researchData := by
  intro record
  have hkept : isDeleted record = false := by decide
  have hmetadata : metadata? record = some linkedMetadata := by decide
  have hd := transform_kept "archive" hkept hmetadata
  have hagree := transform_agree hd
  have hcreators : firstText? linkedMetadata
      "gmd:contact gmd:organisationName gco:CharacterString" = some "Archive" := by
    decide +kernel
  refine ⟨_, hd, hagree, congrArg Option.toList hcreators, hcreators, (hagree.links _).mpr ?_⟩
  exact ⟨by decide +kernel, by decide +kernel, by decide +kernel⟩

end MetadataHarvest.Iso19139
