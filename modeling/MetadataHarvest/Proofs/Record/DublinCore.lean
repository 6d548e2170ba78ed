import MetadataHarvest.Format.Transformer
import MetadataHarvest.Proofs.Number.Digits
import MetadataHarvest.Proofs.Record.Texts

/-!
# The fields of Dublin Core documents

Each repeated field holds the texts of one element of the vocabulary, all of them and in order.
The links are numbered from their count downwards to one, so that no two have the same name. A
year of publication comes with the date it was taken from.
-/

namespace MetadataHarvest.DublinCore

open Markup Record

section WebLinks

variable {urls : List String} {link : WebLink} {i : Nat}

@[simp] theorem length_webLinks (urls : List String) : (webLinks urls).length = urls.length := by
  induction urls with
  | nil => rfl
  | cons url urls ih => rw [webLinks, List.length_cons, List.length_cons, ih]

theorem map_url_webLinks (urls : List String) : (webLinks urls).map (·.url) = urls := by
  induction urls with
  | nil => rfl
  | cons url urls ih => rw [webLinks, List.map_cons, ih]

/-- The number of a link and its index make up the count. -/
theorem number_webLinks (h : (webLinks urls)[i]? = some link) :
    ∃ number, 0 < number ∧ number + i = urls.length ∧ link.name = s!"Identifier{number}" := by
  induction urls generalizing i with
  | nil => cases h
  | cons url urls ih =>
      cases i with
      | zero =>
          obtain rfl := Option.some.inj h
          exact ⟨urls.length + 1, Nat.succ_pos _, rfl, rfl⟩
      | succ i =>
          obtain ⟨number, hpos, hcount, hname⟩ := ih h
          refine ⟨number, hpos, ?_, hname⟩
          rw [← Nat.add_assoc, hcount, List.length_cons]

example : webLinks ["u", "v"] = [⟨"u", "Identifier2"⟩, ⟨"v", "Identifier1"⟩] := by decide

theorem nodup_name_webLinks (urls : List String) : ((webLinks urls).map (·.name)).Nodup := by
  induction urls with
  | nil => exact List.nodup_nil
  | cons url urls ih =>
      rw [webLinks, List.map_cons, List.nodup_cons]
      refine ⟨fun hmem => ?_, ih⟩
      -- The links after this one have smaller numbers.
      obtain ⟨link, hlink, hname⟩ := List.mem_map.mp hmem
      obtain ⟨i, hi⟩ := List.mem_iff_getElem?.mp hlink
      obtain ⟨number, -, hcount, hnumber⟩ := number_webLinks hi
      have hdigits : Nat.toDigits 10 number = Nat.toDigits 10 (urls.length + 1) := by
        simpa [hnumber, Nat.repr, String.ofList_inj] using hname
      have hsame := congrArg Number.ofDigits hdigits
      rw [Number.ofDigits_toDigits, Number.ofDigits_toDigits] at hsame
      omega

end WebLinks

/-- What the document of a record tells of its metadata and of the date in its header. -/
structure Tells (metadata : Element) (datestamp : Option String) (d : Document) : Prop where
  creators : d.creators = textsNamed metadata "dc:creator"
  contributors : d.contributors = textsNamed metadata "dc:contributor"
  titles : d.titles = textsNamed metadata "dc:title"
  descriptions : d.descriptions = textsNamed metadata "dc:description"
  subjects : d.subjects = textsNamed metadata "dc:subject"
  formats : d.formats = textsNamed metadata "dc:type"
  relatedIdentifiers : d.relatedIdentifiers = textsNamed metadata "DOI"
  links : d.webLinks.map (·.url) = textsNamed metadata "dc:identifier"
  numbers : ∀ i link, d.webLinks[i]? = some link → ∃ number, 0 < number ∧
    number + i = d.webLinks.length ∧ link.name = s!"Identifier{number}"
  names : (d.webLinks.map (·.name)).Nodup
  /-- The datestamp comes first, and at most one date after it. -/
  dates : ∃ available : Option TypedDate,
    d.dates = datestamp.toList.map (⟨·, .updated⟩) ++ available.toList ∧
      ∀ date ∈ available, date.type = .available
  /-- The date after it is the first one in the metadata, if a calendar date leads it. -/
  available : ∀ value, ⟨value, .available⟩ ∈ d.dates ↔
    firstTextBelow? metadata [] "dc:date" = some value ∧
      (Calendar.leadingDate? value.toList).isSome = true
  publicationYear : ∀ year, d.publicationYear = some year ↔
    ∃ value day, ⟨value, .available⟩ ∈ d.dates ∧
      Calendar.leadingDate? value.toList = some day ∧ day.year = year

section Availability

variable {metadata : Element} {date : TypedDate} {year : Int}

/-- The first date of the metadata and its year, when a calendar date leads it. -/
theorem availability?_eq_some_iff :
    availability? metadata = some (date, year) ↔ date.type = .available ∧
      firstTextBelow? metadata [] "dc:date" = some date.value ∧
      ∃ day, Calendar.leadingDate? date.value.toList = some day ∧ day.year = year := by
  have hnames : Selector.names "dc:date" = [] ++ ["dc:date"] := by decide
  obtain ⟨value, type⟩ := date
  simp only [availability?, firstText?_eq hnames, Option.bind_eq_some_iff, Option.map_eq_some_iff,
    Prod.mk.injEq, TypedDate.mk.injEq]
  constructor
  · rintro ⟨value', hfirst, day, hday, ⟨rfl, rfl⟩, hyear⟩
    exact ⟨rfl, hfirst, day, hday, hyear⟩
  · rintro ⟨rfl, hfirst, day, hday, hyear⟩
    exact ⟨value, hfirst, day, hday, ⟨rfl, rfl⟩, hyear⟩

section Header

variable {header : Document} {datestamp : Option String}
  (hdates : header.dates = datestamp.toList.map (⟨·, .updated⟩))

include hdates

theorem mem_dates_addMetadata {value : String} :
    ⟨value, .available⟩ ∈ (addMetadata header metadata).dates ↔
      ∃ year, availability? metadata = some (⟨value, .available⟩, year) := by
  have hheader : ⟨value, .available⟩ ∉ header.dates := by
    rw [hdates]
    simp
  rw [addMetadata, List.mem_append, or_iff_right hheader, Option.mem_toList,
    Option.map_eq_some_iff]
  constructor
  · rintro ⟨⟨date, year⟩, h, rfl⟩
    exact ⟨year, h⟩
  · rintro ⟨year, h⟩
    exact ⟨_, h, rfl⟩

theorem available_addMetadata (value : String) :
    ⟨value, .available⟩ ∈ (addMetadata header metadata).dates ↔
      firstTextBelow? metadata [] "dc:date" = some value ∧
        (Calendar.leadingDate? value.toList).isSome = true := by
  rw [mem_dates_addMetadata hdates, Option.isSome_iff_exists]
  constructor
  · rintro ⟨year, h⟩
    obtain ⟨-, hfirst, day, hday, -⟩ := availability?_eq_some_iff.mp h
    exact ⟨hfirst, day, hday⟩
  · rintro ⟨hfirst, day, hday⟩
    exact ⟨day.year, availability?_eq_some_iff.mpr ⟨rfl, hfirst, day, hday, rfl⟩⟩

theorem publicationYear_addMetadata (year : Int) :
    (addMetadata header metadata).publicationYear = some year ↔
      ∃ value day, ⟨value, .available⟩ ∈ (addMetadata header metadata).dates ∧
        Calendar.leadingDate? value.toList = some day ∧ day.year = year := by
  simp only [mem_dates_addMetadata hdates]
  rw [addMetadata, Option.map_eq_some_iff]
  constructor
  · rintro ⟨⟨⟨value, type⟩, year⟩, h, rfl⟩
    obtain ⟨rfl, -, day, hday, hyear⟩ := availability?_eq_some_iff.mp h
    exact ⟨value, day, ⟨year, h⟩, hday, hyear⟩
  · rintro ⟨value, day, ⟨year, h⟩, hday, rfl⟩
    obtain ⟨-, -, day', hday', rfl⟩ := availability?_eq_some_iff.mp h
    obtain rfl := Option.some.inj (hday.symm.trans hday')
    exact ⟨_, h, rfl⟩

end Header

end Availability

/-- A record that was not withdrawn becomes a document that tells of its first metadata, and of
the datestamp that its first header states. -/
theorem transform_tells {record metadata : Element} (hkept : isDeleted record = false)
    (hmetadata : record.children.find? (·.localName = "metadata") = some metadata) :
    ∃ d, Transformer.dublinCore.transform record = some d ∧
      Tells metadata (stated? record "datestamp") d := by
  let header : Document :=
    { identifier := stated? record "identifier"
      dates := (stated? record "datestamp").toList.map (⟨·, .updated⟩) }
  have hmetadata' : metadata? record = some metadata := hmetadata
  have hdocument : document record = addMetadata header metadata := by
    simp only [document, hkept, hmetadata', headerText?_eq, header, Bool.false_eq_true, if_false]
  have hall (name : String) (h : Selector.names name = [name]) :
      allTexts metadata name = textsNamed metadata name := allTexts_eq h
  refine ⟨_, congrArg some hdocument, ?_⟩
  constructor
  case creators => exact hall _ (by decide)
  case contributors => exact hall _ (by decide)
  case titles => exact hall _ (by decide)
  case descriptions => exact hall _ (by decide)
  case subjects => exact hall _ (by decide)
  case formats => exact hall _ (by decide)
  case relatedIdentifiers => exact hall _ (by decide)
  case links => rw [addMetadata, map_url_webLinks, hall _ (by decide)]
  case numbers =>
    intro i link h
    obtain ⟨number, hpos, hcount, hname⟩ := number_webLinks h
    exact ⟨number, hpos, hcount.trans (length_webLinks _).symm, hname⟩
  case names => exact nodup_name_webLinks _
  case dates =>
    refine ⟨(availability? metadata).map (·.1), rfl, fun date hdate => ?_⟩
    obtain ⟨⟨date, year⟩, h, rfl⟩ := Option.map_eq_some_iff.mp hdate
    exact (availability?_eq_some_iff.mp h).1
  case available => exact available_addMetadata rfl
  case publicationYear => exact publicationYear_addMetadata rfl

/-- Metadata with a creator that has no text, links at different depths, and two dates. -/
def mixedMetadata : Element :=
  ⟨"metadata", [], .ofNodes [
    .element ⟨"dc:creator", [], .nil⟩,
    .element ⟨"dc:identifier", [], .ofNodes [.text "u"]⟩,
    .element ⟨"oai_dc:dc", [], .ofNodes [
      .element ⟨"dc:date", [], .ofNodes [.text "2015-06-01T10:00"]⟩,
      .element ⟨"dc:identifier", [], .ofNodes [.text "v"]⟩]⟩,
    .element ⟨"dc:date", [], .ofNodes [.text "2017-11-01"]⟩]⟩

/-- A record with this metadata, whose header has two datestamps. -/
def mixedRecord : Element :=
  ⟨"oai:record", [], .ofNodes [
    .element ⟨"oai:header", [("status", "kept")], .ofNodes [
      .element ⟨"oai:datestamp", [], .ofNodes [.text " 2018-02-01\n"]⟩,
      .element ⟨"datestamp", [], .ofNodes [.text "2019"]⟩]⟩,
    .element mixedMetadata]⟩

theorem transform_tells_mixed :
    isDeleted mixedRecord = false ∧
      mixedRecord.children.find? (·.localName = "metadata") = some mixedMetadata ∧
      ∃ d, Transformer.dublinCore.transform mixedRecord = some d ∧
        Tells mixedMetadata (some "2018-02-01") d ∧ d.creators = [] ∧
        d.publicationYear = some 2015 ∧
        d.dates = [⟨"2018-02-01", .updated⟩, ⟨"2015-06-01T10:00", .available⟩] := by
  have hkept : isDeleted mixedRecord = false := by decide
  have hmetadata : mixedRecord.children.find? (·.localName = "metadata") = some mixedMetadata := by
    decide
  have hdatestamp : stated? mixedRecord "datestamp" = some "2018-02-01" := by decide +kernel
  obtain ⟨d, hd, tells⟩ := transform_tells hkept hmetadata
  rw [hdatestamp] at tells
  have hyear : d.publicationYear = some 2015 := by
    obtain rfl := Option.some.inj hd
    decide +kernel
  have hdates : d.dates = [⟨"2018-02-01", .updated⟩, ⟨"2015-06-01T10:00", .available⟩] := by
    obtain rfl := Option.some.inj hd
    decide +kernel
  exact ⟨hkept, hmetadata, d, hd, tells, tells.creators.trans (by decide +kernel), hyear, hdates⟩

end MetadataHarvest.DublinCore
