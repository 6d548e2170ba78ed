import MetadataHarvest.Format.Transformer
import MetadataHarvest.Proofs.Record.Texts

/-!
# The dates of geographic records

A citation date gives an entry when its code has a meaning and its date has a text; any other one
is passed over. The year of publication depends on two texts alone: the value of the first date of
issue and the first datestamp, which is read when the former names no year.
-/

namespace MetadataHarvest.Iso19139

open Markup Record

/-- The codes for the type of a citation date, each with its meaning. -/
def codes : List (String × DateType) :=
  [("creation", .created), ("publication", .issued), ("revision", .updated)]

/-- What an element from a code list says: its value in the list, or its text when that is missing
or blank. -/
def code (e : Element) : String :=
  ((e.attribute? "codeListValue").bind Text.nonBlank?).getD (normalText e)

/-- The citation date gives this entry: its first code has the type for a meaning, and the value is
the text of its first date. -/
def IsEntry (date : Element) (entry : TypedDate) : Prop :=
  (∃ e, (date.below ["gmd:dateType"] "gmd:CI_DateTypeCode").head? = some e ∧
    (code e, entry.type) ∈ codes) ∧ firstTextBelow? date [] "gmd:date" = some entry.value

/-- The entries that citation dates give, in order. -/
inductive Entries : List Element → List TypedDate → Prop
  | nil : Entries [] []
  | entry {date : Element} {entry : TypedDate} {dates : List Element} {entries : List TypedDate} :
    IsEntry date entry → Entries dates entries → Entries (date :: dates) (entry :: entries)
  | skipped {date : Element} {dates : List Element} {entries : List TypedDate} :
    (∀ entry, ¬ IsEntry date entry) → Entries dates entries → Entries (date :: dates) entries

/-- The citation dates of the metadata. -/
def cited (metadata : Element) : List Element :=
  metadata.below ["gmd:identificationInfo", "gmd:citation"] "gmd:CI_Date"

/-- The text of the first datestamp in the metadata. -/
def datestamp? (metadata : Element) : Option String :=
  firstTextBelow? metadata [] "gmd:dateStamp"

/-- The value of the first date of issue. -/
def issued? (d : Document) : Option String := (d.dateOfType? .issued).map (·.value)

/-- The year that a date names. -/
def year? (value : String) : Option Int := Calendar.year? value.toList

variable {e date metadata record : Element} {entry : TypedDate} {type : DateType}
  {name : String}

theorem dateType?_eq_some_iff : dateType? name = some type ↔ (name, type) ∈ codes := by
  simp only [dateType?, codes, List.mem_cons, Prod.mk.injEq, List.not_mem_nil, or_false]
  split
  · next h => simp [h, eq_comm]
  · next hcreation =>
      split
      · next h => simp [h, eq_comm]
      · next hpublication =>
          split
          · next h => simp [h, eq_comm]
          · next hrevision => simp [hcreation, hpublication, hrevision]

/-- An element that says nothing has a code without a meaning. -/
theorem dateType?_code :
    ((codeListValue? e).orElse fun _ => elementText? e).bind dateType? = dateType? (code e) := by
  rw [codeListValue?, code]
  cases (e.attribute? "codeListValue").bind Text.nonBlank? with
  | some value => rfl
  | none =>
      rw [Option.orElse_none, Option.getD_none, elementText?_eq_guard]
      by_cases h : normalText e = ""
      · rw [h]
        rfl
      · rw [Option.guard_pos (by simpa using h), Option.bind_some]

theorem citationDate?_eq_some_iff : citationDate? date = some entry ↔ IsEntry date entry := by
  have hcode : Selector.names "gmd:dateType gmd:CI_DateTypeCode"
      = ["gmd:dateType"] ++ ["gmd:CI_DateTypeCode"] := by decide
  have hdate : Selector.names "gmd:date" = [] ++ ["gmd:date"] := by decide
  obtain ⟨value, type⟩ := entry
  -- The code is decided on before the date is read.
  have hmeaning (e : Element) (next : DateType → Option TypedDate) :
      (((codeListValue? e).orElse fun _ => elementText? e).bind fun name =>
        (dateType? name).bind next) = (dateType? (code e)).bind next := by
    rw [← Option.bind_assoc, dateType?_code]
  simp only [citationDate?, bind, pure, hmeaning, Element.selectFirst?,
    Element.select_eq_below hcode, firstText?_eq hdate, Option.bind_eq_some_iff,
    dateType?_eq_some_iff, Option.some.injEq, TypedDate.mk.injEq, IsEntry]
  constructor
  · rintro ⟨e, hfirst, type', htype, value', hvalue, rfl, rfl⟩
    exact ⟨⟨e, hfirst, htype⟩, hvalue⟩
  · rintro ⟨⟨e, hfirst, htype⟩, hvalue⟩
    exact ⟨e, hfirst, type, htype, value, hvalue, rfl, rfl⟩

theorem entries_filterMap (dates : List Element) :
    Entries dates (dates.filterMap citationDate?) := by
  induction dates with
  | nil => exact .nil
  | cons date dates ih =>
      cases h : citationDate? date with
      | none =>
          rw [List.filterMap_cons_none h]
          refine .skipped (fun entry hentry => ?_) ih
          rw [citationDate?_eq_some_iff.mpr hentry] at h
          cases h
      | some entry =>
          rw [List.filterMap_cons_some h]
          exact .entry (citationDate?_eq_some_iff.mp h) ih

/-- The citation dates that give no entry are passed over, and no other ones. -/
theorem entries_citationDates (metadata : Element) :
    Entries (cited metadata) (citationDates metadata) := by
  have hnames : Selector.names "gmd:identificationInfo gmd:citation gmd:CI_Date" =
      ["gmd:identificationInfo", "gmd:citation"] ++ ["gmd:CI_Date"] := by decide
  rw [citationDates, Element.select_eq_below hnames]
  exact entries_filterMap (cited metadata)

/-- The year comes from the first date of issue, or else from the first datestamp. -/
theorem publicationYear_addMetadata (document : Document) (metadata : Element) :
    (addMetadata document metadata).publicationYear =
      ((issued? (addMetadata document metadata)).bind year?).or
        ((datestamp? metadata).bind year?) := by
  have hnames : Selector.names "gmd:dateStamp" = [] ++ ["gmd:dateStamp"] := by decide
  have hstamp : datestampYear? metadata = (datestamp? metadata).bind year? := by
    rw [datestampYear?, firstText?_eq hnames]
    rfl
  have hdates : (addMetadata document metadata).dates = citationDates metadata := rfl
  have hyear : (addMetadata document metadata).publicationYear =
      publicationYear? (citationDates metadata) (datestampYear? metadata) := rfl
  rw [hyear, hstamp, publicationYear?, issued?, Document.dateOfType?, hdates, Option.bind_map,
    Option.orElse_eq_or]
  rfl

theorem transform_kept (identifier : String) (hkept : isDeleted record = false)
    (hmetadata : metadata? record = some metadata) :
    (Transformer.iso19139 identifier).transform record =
      some (addMetadata { repositoryIdentifier := some identifier } metadata) := by
  simp only [Transformer.transform, document?, hkept, hmetadata, Bool.false_eq_true, if_false]

/-- A record that was not withdrawn becomes a document with an entry for each citation date that
gives one. Its year of publication is that of the first date of issue, or else that of the first
datestamp, and it is the same for all records in which these two agree. -/
theorem transform_dated (identifier : String) (hkept : isDeleted record = false)
    (hmetadata : metadata? record = some metadata) :
    ∃ d, (Transformer.iso19139 identifier).transform record = some d ∧
      Entries (cited metadata) d.dates ∧
      d.publicationYear = ((issued? d).bind year?).or ((datestamp? metadata).bind year?) ∧
      ((issued? d).bind year? = none → d.publicationYear = (datestamp? metadata).bind year?) ∧
      ∀ (other otherMetadata : Element) (otherIdentifier : String) (d' : Document),
        isDeleted other = false → metadata? other = some otherMetadata →
        (Transformer.iso19139 otherIdentifier).transform other = some d' →
        issued? d' = issued? d → datestamp? otherMetadata = datestamp? metadata →
        d'.publicationYear = d.publicationYear := by
  have hyear (identifier : String) (metadata : Element) :=
    publicationYear_addMetadata { repositoryIdentifier := some identifier } metadata
  refine ⟨_, transform_kept identifier hkept hmetadata, entries_citationDates metadata,
    hyear _ _, ?_, ?_⟩
  · intro hissued
    rw [hyear, hissued, Option.none_or]
  · intro other otherMetadata otherIdentifier d' hkept' hmetadata' hd' hissued hstamp
    have hother := transform_kept otherIdentifier hkept' hmetadata'
    obtain rfl := Option.some.inj (hother.symm.trans hd')
    rw [hyear, hyear, hissued, hstamp]

/-- Metadata with a datestamp and three citation dates: one with a code that has no meaning, one
without a code, and one without a text for its date. -/
def passedOver : Element :=
  let date (code value : Content) : Node := .element ⟨"gmd:CI_Date", [], .ofNodes [
    .element ⟨"gmd:dateType", [], code⟩, .element ⟨"gmd:date", [], value⟩]⟩
  ⟨"metadata", [], .ofNodes [
    .element ⟨"gmd:dateStamp", [], .ofNodes [.text "2015-06-01"]⟩,
    .element ⟨"gmd:identificationInfo", [], .ofNodes [
      .element ⟨"gmd:citation", [], .ofNodes [
        date (.ofNodes [.element ⟨"gmd:CI_DateTypeCode", [("codeListValue", "adopted")], .nil⟩])
          (.ofNodes [.text "2014"]),
        date .nil (.ofNodes [.text "2013"]),
        date (.ofNodes [.element ⟨"gmd:CI_DateTypeCode", [("codeListValue", " publication ")],
          .ofNodes [.text "creation"]⟩]) .nil]⟩]⟩]⟩

theorem transform_dated_passedOver :
    let record : Element := ⟨"record", [], .ofNodes [.element passedOver]⟩
    isDeleted record = false ∧ metadata? record = some passedOver ∧
      ∃ d, (Transformer.iso19139 "archive").transform record = some d ∧
        Entries (cited passedOver) d.dates ∧ d.dates = [] ∧
        d.publicationYear = (datestamp? passedOver).bind year? := by
  intro record
  have hkept : isDeleted record = false := by decide
  have hmetadata : metadata? record = some passedOver := by decide
  obtain ⟨d, hd, hentries, -, hstamp, -⟩ :=
    transform_dated "archive" hkept hmetadata
  have hdates : d.dates = [] := by
    obtain rfl := Option.some.inj ((transform_kept _ hkept hmetadata).symm.trans hd)
    decide +kernel
  refine ⟨hkept, hmetadata, d, hd, hentries, hdates, hstamp ?_⟩
  rw [issued?, Document.dateOfType?, hdates]
  rfl

end MetadataHarvest.Iso19139
