import MetadataHarvest.Proofs.Markup.Texts
import MetadataHarvest.Proofs.Record.Consistency
import MetadataHarvest.Proofs.Record.DublinCore
import MetadataHarvest.Proofs.Text.Trim

/-!
# Tidy documents

The readers of fields give tidy texts, because what they read is the joined words of an element in
normal form. A document gets every text from one of them except the label of its resource type,
which may come from an attribute: it has its outer blanks removed and stays as written otherwise.
-/

namespace MetadataHarvest

open Markup Text

/-- The texts that a document takes from its record are tidy. The label of its resource type is
not among them. -/
structure Document.HasTidyTexts (d : Document) : Prop where
  identifier : ∀ text ∈ d.identifier, IsTidy text
  creators : ∀ text ∈ d.creators, IsTidy text
  titles : ∀ text ∈ d.titles, IsTidy text
  publisher : ∀ text ∈ d.publisher, IsTidy text
  dates : ∀ date ∈ d.dates, IsTidy date.value
  descriptions : ∀ text ∈ d.descriptions, IsTidy text
  researchData : ∀ link ∈ d.researchData, IsTidy link.url ∧ IsTidy link.title
  webLinks : ∀ link ∈ d.webLinks, IsTidy link.url
  relatedIdentifiers : ∀ text ∈ d.relatedIdentifiers, IsTidy text
  subjects : ∀ text ∈ d.subjects, IsTidy text
  contributors : ∀ text ∈ d.contributors, IsTidy text
  formats : ∀ text ∈ d.formats, IsTidy text
  language : ∀ text ∈ d.language, IsTidy text

namespace Record

variable {e record : Element} {selector name text : String}

theorem isTidy_normalText (h : normalText e ≠ "") : IsTidy (normalText e) := by
  apply isTidy_of_joinWords e.content.isWord_of_mem_words h
  rw [normalText, String.toList_ofList, Element.text, String.toList_ofList]

theorem isTidy_of_elementText? (h : elementText? e = some text) : IsTidy text := by
  rw [elementText?_eq_guard, Option.guard_eq_some_iff, decide_eq_true_eq] at h
  obtain ⟨rfl, hne⟩ := h
  exact isTidy_normalText hne

theorem isTidy_of_firstText? (h : firstText? e selector = some text) : IsTidy text := by
  obtain ⟨d, -, h⟩ := Option.bind_eq_some_iff.mp h
  exact isTidy_of_elementText? h

theorem isTidy_of_firstTextBelow? {path : List String}
    (h : firstTextBelow? e path name = some text) : IsTidy text := by
  obtain ⟨h, hne⟩ := Option.filter_eq_some_iff.mp h
  obtain ⟨d, -, rfl⟩ := Option.map_eq_some_iff.mp h
  exact isTidy_normalText (by simpa using hne)

theorem isTidy_of_mem_allTexts (h : text ∈ allTexts e selector) : IsTidy text := by
  obtain ⟨d, -, h⟩ := List.mem_filterMap.mp h
  exact isTidy_of_elementText? h

theorem isTidy_of_headerText? (h : headerText? record name = some text) : IsTidy text := by
  obtain ⟨d, -, h⟩ := Option.bind_eq_some_iff.mp h
  exact isTidy_of_elementText? h

end Record

open Record

namespace DublinCore

variable {metadata : Element} {header : Document} {date : TypedDate} {year : Int}

theorem isTidy_of_availability? (h : availability? metadata = some (date, year)) :
    IsTidy date.value := by
  obtain ⟨value, hvalue, h⟩ := Option.bind_eq_some_iff.mp h
  obtain ⟨day, -, h⟩ := Option.map_eq_some_iff.mp h
  obtain ⟨rfl, -⟩ := Prod.mk.inj h
  exact isTidy_of_firstText? hvalue

/-- What is taken from the header is tidy, whether or not the record was withdrawn. -/
theorem hasTidyTexts_header (record : Element) (deleted : Bool) :
    Document.HasTidyTexts
      { identifier := headerText? record "identifier"
        dates := (headerText? record "datestamp").toList.map (⟨·, .updated⟩)
        deleted } := by
  constructor
  case identifier => exact fun text => isTidy_of_headerText?
  case dates =>
    rw [List.forall_mem_map]
    exact fun value hvalue => isTidy_of_headerText? (Option.mem_toList.mp hvalue)
  all_goals simp

theorem hasTidyTexts_addMetadata (h : header.HasTidyTexts) :
    (addMetadata header metadata).HasTidyTexts := by
  constructor
  case identifier => exact h.identifier
  case researchData => exact h.researchData
  case dates =>
    rw [addMetadata, List.forall_mem_append]
    refine ⟨h.dates, fun date hdate => ?_⟩
    rw [Option.mem_toList, Option.map_eq_some_iff] at hdate
    obtain ⟨⟨date, year⟩, hdate, rfl⟩ := hdate
    exact isTidy_of_availability? hdate
  case webLinks =>
    rw [← List.forall_mem_map (f := WebLink.url) (P := IsTidy), addMetadata, map_url_webLinks]
    exact fun text => isTidy_of_mem_allTexts
  case publisher | language => exact fun text => isTidy_of_firstText?
  all_goals exact fun text => isTidy_of_mem_allTexts

theorem hasTidyTexts_document (record : Element) : (document record).HasTidyTexts := by
  rw [document]
  split
  · exact hasTidyTexts_header record true
  · split
    · exact hasTidyTexts_header record false
    · exact hasTidyTexts_addMetadata (hasTidyTexts_header record false)

theorem resourceType_document (record : Element) : (document record).resourceType = none := by
  rw [document]
  split
  · rfl
  · split <;> rfl

end DublinCore

namespace Iso19139

variable {record metadata date scope : Element} {entry : TypedDate} {d : Document}
  {title : Option String} {link : ResearchData} {repositoryIdentifier label : String}

theorem isTidy_of_citationDate? (h : citationDate? date = some entry) : IsTidy entry.value :=
  isTidy_of_firstTextBelow? (citationDate?_eq_some_iff.mp h).2

theorem isTidy_of_researchData? (htitle : ∀ text ∈ title, IsTidy text)
    (h : researchData? metadata title = some link) : IsTidy link.url ∧ IsTidy link.title := by
  obtain ⟨hurl, -, hlabel⟩ := researchData?_eq_some_iff.mp h
  exact ⟨isTidy_of_firstTextBelow? hurl, htitle link.title hlabel⟩

theorem hasTidyTexts_addMetadata (repositoryIdentifier : String) (metadata : Element) :
    (addMetadata { repositoryIdentifier := some repositoryIdentifier } metadata).HasTidyTexts := by
  constructor
  case identifier | publisher => exact fun text => isTidy_of_firstText?
  case creators | titles | descriptions =>
    exact fun text htext => isTidy_of_firstText? (Option.mem_toList.mp htext)
  case dates =>
    intro entry hentry
    obtain ⟨date, -, hdate⟩ := List.mem_filterMap.mp hentry
    exact isTidy_of_citationDate? hdate
  case researchData =>
    intro link hlink
    exact isTidy_of_researchData? (fun text => isTidy_of_firstText?) (Option.mem_toList.mp hlink)
  all_goals simp [addMetadata]

/-- The label is the value of an element without text in its code list, without outer blanks. -/
def IsListed (scope : Element) (label : String) : Prop :=
  normalText scope = "" ∧ ∃ value, scope.attribute? "codeListValue" = some value ∧
    label = trimmed value ∧ label ≠ ""

/-- The first element that tells what kind of resource the metadata of a record is about. -/
def level? (record : Element) : Option Element :=
  (metadata? record).bind fun metadata =>
    (metadata.below ["gmd:hierarchyLevel"] "gmd:MD_ScopeCode").head?

theorem isTidy_or_isListed (h : ((elementText? scope).orElse fun _ => codeListValue? scope) =
    some label) : IsTidy label ∨ IsListed scope label := by
  rw [Option.orElse_eq_or, Option.or_eq_some_iff] at h
  rcases h with h | ⟨hnone, h⟩
  · exact .inl (isTidy_of_elementText? h)
  · right
    obtain ⟨value, hvalue, h⟩ := Option.bind_eq_some_iff.mp h
    rw [elementText?_eq_guard, Option.guard_eq_none_iff, decide_eq_false_iff_not, not_not] at hnone
    obtain ⟨rfl, hne⟩ := nonBlank?_eq_some_iff.mp h
    exact ⟨hnone, value, hvalue, rfl, hne⟩

theorem resourceType?_cases (h : resourceType? metadata = some label) :
    ∃ scope, (metadata.below ["gmd:hierarchyLevel"] "gmd:MD_ScopeCode").head? = some scope ∧
      (IsTidy label ∨ IsListed scope label) := by
  have hnames : Selector.names "gmd:hierarchyLevel gmd:MD_ScopeCode" =
      ["gmd:hierarchyLevel"] ++ ["gmd:MD_ScopeCode"] := by decide
  rw [resourceType?, Element.selectFirst?, Element.select_eq_below hnames] at h
  obtain ⟨scope, hscope, h⟩ := Option.bind_eq_some_iff.mp h
  exact ⟨scope, hscope, isTidy_or_isListed h⟩

/-- All texts of a geographic document are tidy, except a label from a code list. -/
theorem hasTidyTexts_of_document? (h : document? repositoryIdentifier record = some d) :
    d.HasTidyTexts ∧ ∀ label ∈ d.resourceType,
      IsTidy label ∨ ∃ scope ∈ level? record, IsListed scope label := by
  rw [document?] at h
  split at h
  · cases h
  · cases h
    split
    · exact ⟨by constructor <;> simp, by simp⟩
    · next metadata hmetadata =>
        refine ⟨hasTidyTexts_addMetadata repositoryIdentifier metadata, fun label hlabel => ?_⟩
        obtain ⟨scope, hscope, hcases⟩ := resourceType?_cases hlabel
        refine hcases.imp_right fun hlisted => ⟨scope, ?_, hlisted⟩
        rw [level?, hmetadata]
        exact hscope

end Iso19139

/-- All texts that a document takes from its record are tidy, except a label of its resource type
that is the value of a geographic record in a code list: this has lost its outer blanks only. -/
theorem Transformer.hasTidyTexts_of_transform {t : Transformer} {record : Element} {d : Document}
    (h : t.transform record = some d) :
    d.HasTidyTexts ∧ ∀ label ∈ d.resourceType,
      IsTidy label ∨ ∃ scope ∈ Iso19139.level? record, Iso19139.IsListed scope label := by
  cases t with
  | dublinCore =>
      obtain rfl := Option.some.inj h
      refine ⟨DublinCore.hasTidyTexts_document record, ?_⟩
      rw [DublinCore.resourceType_document]
      exact nofun
  | iso19139 repositoryIdentifier => exact Iso19139.hasTidyTexts_of_document? h

/-- A record with this value for its level and no text in it. -/
def listedRecord (value : String) : Element :=
  ⟨"record", [], .ofNodes [.element ⟨"metadata", [], .ofNodes [
    .element ⟨"gmd:hierarchyLevel", [], .ofNodes [
      .element ⟨"gmd:MD_ScopeCode", [("codeListValue", value)], .nil⟩]⟩]⟩]⟩

theorem not_isTidy_twoSpaces : ¬ IsTidy "a  b" := by
  intro h
  have hapart : ['a', ' ', ' ', 'b'].IsChain fun c d => isBlank c = false ∨ isBlank d = false :=
    h.collapsed.apart
  exact absurd hapart (by decide)

theorem Transformer.hasTidyTexts_of_transform_listed :
    ∃ d, (iso19139 "archive").transform (listedRecord " a  b ") = some d ∧ d.HasTidyTexts ∧
      d.resourceType = some "a  b" ∧
      ∃ scope ∈ Iso19139.level? (listedRecord " a  b "), Iso19139.IsListed scope "a  b" := by
  have hlabel : ((iso19139 "archive").transform (listedRecord " a  b ")).map (·.resourceType) =
      some (some "a  b") := by
    decide +kernel
  obtain ⟨d, hd, hlabel⟩ := Option.map_eq_some_iff.mp hlabel
  obtain ⟨htexts, hcases⟩ := hasTidyTexts_of_transform hd
  exact ⟨d, hd, htexts, hlabel, (hcases "a  b" hlabel).resolve_left not_isTidy_twoSpaces⟩

/-- The value of a level in a code list becomes the label with the blanks inside it. -/
theorem Transformer.not_forall_isTidy_of_transform :
    ¬ ∀ (t : Transformer) (record : Element) (d : Document), t.transform record = some d →
      d.HasTidyTexts ∧ ∀ label ∈ d.resourceType, IsTidy label := by
  intro h
  have hlabel : ((iso19139 "OAI-PMH").transform (listedRecord "a  b")).map (·.resourceType) =
      some (some "a  b") := by
    decide +kernel
  obtain ⟨d, hd, hlabel⟩ := Option.map_eq_some_iff.mp hlabel
  exact not_isTidy_twoSpaces ((h _ _ d hd).2 "a  b" hlabel)

end MetadataHarvest
