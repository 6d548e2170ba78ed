import MetadataHarvest.Proofs.Markup.Enclosure
import MetadataHarvest.Proofs.Record.Withdrawn

/-!
# Wrappers in the metadata

The documents of records do not depend on elements that no selector of their transformer names.
Where such an element is put around some of the metadata, at any depth, every field of the
document is what it was, because each is made of texts and attributes of selected elements.
-/

namespace MetadataHarvest

open Markup

/-- The selectors by which Dublin Core metadata is read. -/
def DublinCore.selectors : List String :=
  ["dc:date", "dc:type", "dc:creator", "dc:contributor", "dc:title", "dc:description",
    "dc:identifier", "dc:subject", "dc:publisher", "dc:language", "DOI"]

/-- The selectors by which geographic metadata is read, those inside a citation date or a bounding
box among them. -/
def Iso19139.selectors : List String :=
  ["gmd:fileIdentifier gco:CharacterString",
    "gmd:contact gmd:organisationName gco:CharacterString",
    "gmd:identificationInfo gmd:citation gmd:title gco:CharacterString",
    "gmd:dateStamp",
    "gmd:hierarchyLevel gmd:MD_ScopeCode",
    "gmd:distributionInfo gmd:onLine gmd:linkage gmd:URL",
    "gmd:identificationInfo gmd:abstract gco:CharacterString",
    "gmd:identificationInfo gmd:citation gmd:CI_Date",
    "gmd:date",
    "gmd:dateType gmd:CI_DateTypeCode",
    "gmd:EX_GeographicBoundingBox",
    "gmd:westBoundLongitude",
    "gmd:eastBoundLongitude",
    "gmd:southBoundLatitude",
    "gmd:northBoundLatitude"]

def Transformer.selectors : Transformer → List String
  | dublinCore => DublinCore.selectors
  | iso19139 _ => Iso19139.selectors

/-- Whether no step of any of these selectors has a name. -/
def AvoidedBy (name : String) (selectors : List String) : Prop :=
  ∀ selector ∈ selectors, name ∉ Selector.names selector

namespace Record

variable {name : String} {attributes : List (String × String)} {selector : String}

section Reader

variable {e e' : Element} (h : e.MayEnclose name attributes e')

include h

theorem elementText?_eq_of_mayEnclose : elementText? e' = elementText? e := by
  rw [elementText?, elementText?, h.text_eq]

theorem firstText?_eq_of_mayEnclose (hname : name ∉ Selector.names selector) :
    firstText? e' selector = firstText? e selector :=
  h.bind_selectFirst?_eq (fun _ _ => elementText?_eq_of_mayEnclose) hname

theorem allTexts_eq_of_mayEnclose (hname : name ∉ Selector.names selector) :
    allTexts e' selector = allTexts e selector :=
  h.filterMap_select_eq (fun _ _ => elementText?_eq_of_mayEnclose) hname

end Reader

/-- The second record is the first one with a new element, of this name and with these attributes,
at or below its metadata element, around a run of nodes that stood there. -/
inductive MetadataEnclosed (name : String) (attributes : List (String × String)) :
    Element → Element → Prop
  | intro (record : Element) (before after : List Node) {metadata : Element} {content : Content}
      (hbefore : ∀ e ∈ (Content.ofNodes before).elements, e.localName ≠ "metadata")
      (hmetadata : metadata.localName = "metadata")
      (h : metadata.content.Enclosed name attributes content) :
      MetadataEnclosed name attributes
        { record with content := .ofNodes (before ++ .element metadata :: after) }
        { record with content := .ofNodes (before ++ .element { metadata with content } :: after) }

section Envelope

variable {record record' : Element} (h : MetadataEnclosed name attributes record record')

include h

/-- The header does not stand below the metadata. -/
theorem MetadataEnclosed.header?_eq : header? record' = header? record := by
  cases h with
  | @intro record before after metadata content _ hmetadata _ =>
      have hother : metadata.localName ≠ "header" := by
        rw [hmetadata]
        decide
      have hother' : ({ metadata with content } : Element).localName ≠ "header" := hother
      simp only [header?, Element.childLocal?, Element.children,
        Content.elements_ofNodes_append, Content.ofNodes, Content.elements, List.find?_append]
      rw [List.find?_cons_of_neg (by simpa using hother'),
        List.find?_cons_of_neg (by simpa using hother)]

/-- The metadata is the first metadata element in both records. -/
theorem MetadataEnclosed.metadata? :
    ∃ metadata metadata', metadata? record = some metadata ∧
      Record.metadata? record' = some metadata' ∧
      metadata.MayEnclose name attributes metadata' := by
  cases h with
  | @intro record before after metadata content hbefore hmetadata h =>
      have hnone : (Content.ofNodes before).elements.find? (·.localName = "metadata") = none := by
        rw [List.find?_eq_none]
        simpa using hbefore
      have hfirst (e : Element) (he : e.localName = "metadata") :
          Record.metadata?
            { record with content := .ofNodes (before ++ .element e :: after) } = some e := by
        simp only [Record.metadata?, Element.childLocal?, Element.children,
          Content.elements_ofNodes_append, Content.ofNodes, Content.elements,
          List.find?_append, hnone, Option.none_or]
        exact List.find?_cons_of_pos (by simpa using he)
      exact ⟨metadata, { metadata with content }, hfirst _ hmetadata, hfirst _ hmetadata,
        .inside h⟩

end Envelope

end Record

open Record

section Metadata

variable {name : String} {attributes : List (String × String)}

namespace DublinCore

theorem addMetadata_eq_of_mayEnclose {metadata metadata' : Element}
    (h : metadata.MayEnclose name attributes metadata') (hname : AvoidedBy name selectors)
    (document : Document) :
    addMetadata document metadata' = addMetadata document metadata := by
  have hfirst : ∀ selector ∈ selectors,
      firstText? metadata' selector = firstText? metadata selector := fun selector hmem =>
    firstText?_eq_of_mayEnclose h (hname selector hmem)
  have hall : ∀ selector ∈ selectors,
      allTexts metadata' selector = allTexts metadata selector := fun selector hmem =>
    allTexts_eq_of_mayEnclose h (hname selector hmem)
  simp only [selectors, List.forall_mem_cons] at hfirst hall
  simp only [addMetadata, availability?, hfirst, hall]

theorem document_eq_of_enclosed {record record' : Element}
    (h : MetadataEnclosed name attributes record record') (hname : AvoidedBy name selectors) :
    document record' = document record := by
  obtain ⟨metadata, metadata', hmetadata, hmetadata', henclose⟩ := h.metadata?
  simp only [document, isDeleted_congr h.header?_eq, headerText?_congr h.header?_eq, hmetadata,
    hmetadata', addMetadata_eq_of_mayEnclose henclose hname]

end DublinCore

namespace Iso19139

section Reader

variable {e e' : Element} (h : e.MayEnclose name attributes e')

include h

theorem codeListValue?_eq_of_mayEnclose : codeListValue? e' = codeListValue? e := by
  rw [codeListValue?, codeListValue?, h.attribute?_eq]

theorem resourceType?_eq_of_mayEnclose (hname : AvoidedBy name selectors) :
    resourceType? e' = resourceType? e := by
  apply h.bind_selectFirst?_eq
  · intro scope scope' hscope
    rw [elementText?_eq_of_mayEnclose hscope, codeListValue?_eq_of_mayEnclose hscope]
  · exact hname _ (by simp [selectors])

/-- A citation date is read from its code and its value, which may both be wrapped. -/
theorem citationDate?_eq_of_mayEnclose (hname : AvoidedBy name selectors) :
    citationDate? e' = citationDate? e := by
  have hvalue : firstText? e' "gmd:date" = firstText? e "gmd:date" :=
    firstText?_eq_of_mayEnclose h (hname _ (by simp [selectors]))
  rw [citationDate?, citationDate?, hvalue]
  apply h.bind_selectFirst?_eq
  · intro code code' hcode
    rw [elementText?_eq_of_mayEnclose hcode, codeListValue?_eq_of_mayEnclose hcode]
  · exact hname _ (by simp [selectors])

theorem edge?_eq_of_mayEnclose {selector : String} (hname : name ∉ Selector.names selector) :
    edge? e' selector = edge? e selector := by
  rw [edge?, edge?, firstText?_eq_of_mayEnclose h hname]

theorem geoLocation?_eq_of_mayEnclose (hname : AvoidedBy name selectors) :
    geoLocation? e' = geoLocation? e := by
  have hedge : ∀ selector ∈ selectors, edge? e' selector = edge? e selector :=
    fun selector hmem => edge?_eq_of_mayEnclose h (hname selector hmem)
  simp only [selectors, List.forall_mem_cons] at hedge
  simp only [geoLocation?, hedge]

end Reader

theorem addMetadata_eq_of_mayEnclose {metadata metadata' : Element}
    (h : metadata.MayEnclose name attributes metadata') (hname : AvoidedBy name selectors)
    (document : Document) :
    addMetadata document metadata' = addMetadata document metadata := by
  have hfirst : ∀ selector ∈ selectors,
      firstText? metadata' selector = firstText? metadata selector := fun selector hmem =>
    firstText?_eq_of_mayEnclose h (hname selector hmem)
  have hdates : citationDates metadata' = citationDates metadata :=
    h.filterMap_select_eq (fun _ _ hdate => citationDate?_eq_of_mayEnclose hdate hname)
      (hname _ (by simp [selectors]))
  have hplaces : (metadata'.select "gmd:EX_GeographicBoundingBox").filterMap geoLocation? =
      (metadata.select "gmd:EX_GeographicBoundingBox").filterMap geoLocation? :=
    h.filterMap_select_eq (fun _ _ hbox => geoLocation?_eq_of_mayEnclose hbox hname)
      (hname _ (by simp [selectors]))
  simp only [selectors, List.forall_mem_cons] at hfirst
  simp only [addMetadata, datestampYear?, researchData?, hfirst, hdates, hplaces,
    resourceType?_eq_of_mayEnclose h hname]

theorem document?_eq_of_enclosed {record record' : Element}
    (h : MetadataEnclosed name attributes record record') (hname : AvoidedBy name selectors)
    (repositoryIdentifier : String) :
    document? repositoryIdentifier record' = document? repositoryIdentifier record := by
  obtain ⟨metadata, metadata', hmetadata, hmetadata', henclose⟩ := h.metadata?
  simp only [document?, isDeleted_congr h.header?_eq, hmetadata, hmetadata',
    addMetadata_eq_of_mayEnclose henclose hname]

end Iso19139

end Metadata

/-- A new element around a run of nodes at or below the metadata of a record, with any
attributes and a name that is no step of a selector of the transformer, changes nothing in the
document. -/
theorem Transformer.transform_enclosed (t : Transformer) {name : String}
    {attributes : List (String × String)} (hname : AvoidedBy name t.selectors)
    {record record' : Element} (h : MetadataEnclosed name attributes record record') :
    t.transform record' = t.transform record := by
  cases t with
  | dublinCore => exact congrArg some (DublinCore.document_eq_of_enclosed h hname)
  | iso19139 repositoryIdentifier =>
      exact Iso19139.document?_eq_of_enclosed h hname repositoryIdentifier

/-- A record whose level has these nodes in it. -/
def leveledRecord (level : List Node) : Element :=
  ⟨"record", [], .ofNodes [.element
    ⟨"metadata", [], .ofNodes [.element ⟨"gmd:hierarchyLevel", [], .ofNodes level⟩]⟩]⟩

def leveledNodes : List Node :=
  [.text "n", .element ⟨"gmd:MD_ScopeCode", [("codeListValue", "dataset")], .nil⟩]

/-- The code of the level is wrapped together with the text before it, and it is found all the
same. -/
theorem Transformer.transform_enclosed_level :
    let attributes := [("uuid", "u")]
    let wrapped := leveledRecord [.element ⟨"gmd:level", attributes, .ofNodes leveledNodes⟩]
    AvoidedBy "gmd:level" (iso19139 "r").selectors ∧
      MetadataEnclosed "gmd:level" attributes (leveledRecord leveledNodes) wrapped ∧
      (iso19139 "r").transform wrapped = (iso19139 "r").transform (leveledRecord leveledNodes) ∧
      ((iso19139 "r").transform wrapped).bind (·.resourceType) = some "dataset" := by
  intro attributes wrapped
  have hname : AvoidedBy "gmd:level" (iso19139 "r").selectors := by
    rw [AvoidedBy]
    decide +kernel
  have henclosed : MetadataEnclosed "gmd:level" attributes (leveledRecord leveledNodes) wrapped :=
    .intro (leveledRecord leveledNodes) [] [] (by simp [Content.ofNodes, Content.elements])
      (by decide) (.inside [] [] (.here [] leveledNodes []))
  exact ⟨hname, henclosed, transform_enclosed (iso19139 "r") hname henclosed, by decide +kernel⟩

end MetadataHarvest
