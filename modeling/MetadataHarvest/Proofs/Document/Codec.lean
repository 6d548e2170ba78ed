import MetadataHarvest.Proofs.Document.Fields
import MetadataHarvest.Proofs.Document.Storable

/-!
# Documents as records

Each part of a document is read from what is written of it, and so is the document, when its year
has 32 bits and the digits of its coordinates read back.
-/

namespace MetadataHarvest

open Json Number

namespace Json

theorem isCodec_int32 :
    IsCodec FitsInt32 (fun n => .scalar (.number (.ofInt n))) int32? where
  isGrammatical n := .scalar fun l hl => by
    cases hl
    exact Literal.ofInt_isGrammatical n
  ne_null n := by simp
  decode_encode n hn := by
    rw [int32?, Literal.toInt?_ofInt, Option.filter_some, if_pos (by simpa [FitsInt32] using hn)]

/-- Whether a number is read from the digits that are written for it. -/
def ReadsBack (x : Binary64) : Prop := binary64? (.scalar (.ofBinary64 x)) = some x

instance (x : Binary64) : Decidable (ReadsBack x) := inferInstanceAs (Decidable (_ = _))

/-- Not every finite number is read from its digits. -/
theorem exists_not_readsBack : ∃ x : Binary64, x.isFinite = true ∧ ¬ ReadsBack x :=
  ⟨.ofDecimal false 31245270191439438 (-15), by decide +kernel, by decide +kernel⟩

theorem isGrammatical_ofBinary64 (x : Binary64) :
    (Value.scalar (.ofBinary64 x)).IsGrammatical := by
  refine .scalar fun l hl => ?_
  cases x with
  | finite negative magnitude =>
      cases hl
      exact Layout.literal_isGrammatical _ _ _
  | infinite | nan => cases hl

end Json

theorem DateType.ofJson?_ofString (t : DateType) : ofJson? (.ofString t.name) = some t := by
  cases t <;> decide

theorem TypedDate.isCodec : IsCodec (fun _ => True) toJson ofJson? :=
  isCodec_ofTexts ["value", "type"] (fun d : TypedDate => [d.value, d.type.name]) _ (by decide)
    (fun _ => rfl) fun d => by simp [DateType.ofJson?_ofString]

theorem ResearchData.isCodec : IsCodec (fun _ => True) toJson ofJson? :=
  isCodec_ofTexts ["url", "title"] (fun d : ResearchData => [d.url, d.title]) _ (by decide)
    (fun _ => rfl) fun d => by simp

theorem WebLink.isCodec : IsCodec (fun _ => True) toJson ofJson? :=
  isCodec_ofTexts ["url", "name", "type"] (fun l : WebLink => [l.url, l.name, "ViewURL"]) _
    (by decide) (fun _ => rfl) fun l => by simp

theorem RelatedIdentifier.isCodec : IsCodec (fun _ => True) toJson ofJson? :=
  isCodec_ofTexts ["value", "identifierType", "relationType"]
    (fun value => [value, "DOI", "IsReferencedBy"]) _ (by decide) (fun _ => rfl)
    fun value => by simp

section Numbers

/-- What a record of numbers is written as: a number under each name. -/
def Json.ofNumbers (names : List String) (xs : List Binary64) : Value :=
  .ofFields (names.zip (xs.map fun x => .scalar (.ofBinary64 x)))

variable (names : List String) (xs : List Binary64)

theorem Json.isGrammatical_of_mem_map_ofBinary64 {v : Value}
    (hv : v ∈ xs.map fun x => Value.scalar (.ofBinary64 x)) : v.IsGrammatical := by
  obtain ⟨x, -, rfl⟩ := List.mem_map.mp hv
  exact isGrammatical_ofBinary64 x

theorem Json.isGrammatical_ofNumbers (hlength : names.length = xs.length) :
    (ofNumbers names xs).IsGrammatical :=
  (isRecord_zip (by simpa using hlength)
    fun _ => isGrammatical_of_mem_map_ofBinary64 xs).isGrammatical

theorem Json.wholeRecord?_ofNumbers (hn : names.Nodup) (hlength : names.length = xs.length) :
    wholeRecord? names (ofNumbers names xs) = some (xs.map fun x => .scalar (.ofBinary64 x)) :=
  wholeRecord?_zip hn (by simpa using hlength) fun _ => isGrammatical_of_mem_map_ofBinary64 xs

end Numbers

namespace GeoLocation

theorem isCodec : IsCodec (fun g => ∀ x ∈ g.coordinates, ReadsBack x) toJson ofJson? where
  isGrammatical g := by
    cases g with
    | point longitude latitude =>
        exact (IsRecord.present (isGrammatical_ofNumbers ["longitude", "latitude"]
          [longitude, latitude] rfl) .nil).isGrammatical
    | box west east south north =>
        exact (IsRecord.present (isGrammatical_ofNumbers ["west", "east", "south", "north"]
          [west, east, south, north] rfl) .nil).isGrammatical
  ne_null g := by cases g <;> simp [toJson, Value.ofFields]
  decode_encode g hg := by
    cases g with
    | point longitude latitude =>
        have hwritten : (point longitude latitude).toJson = .object [(some "point",
            ofNumbers ["longitude", "latitude"] [longitude, latitude])] := rfl
        have hnumbers := mapM_map_eq_some hg
        simp only [coordinates] at hnumbers
        rw [hwritten, ofJson?, wholeRecord?_ofNumbers _ _ (by decide) rfl]
        simp only [Option.bind_eq_bind, Option.bind_some, hnumbers]
        rfl
    | box west east south north =>
        have hwritten : (box west east south north).toJson = .object [(some "box",
            ofNumbers ["west", "east", "south", "north"] [west, east, south, north])] := rfl
        have hnumbers := mapM_map_eq_some hg
        simp only [coordinates] at hnumbers
        rw [hwritten, ofJson?, wholeRecord?_ofNumbers _ _ (by decide) rfl]
        simp only [Option.bind_eq_bind, Option.bind_some, hnumbers]
        rfl

end GeoLocation

namespace Document

/-- What is written of a document is a record from which its fields are read. -/
theorem toJson_codec (d : Document) :
    d.toJson.IsGrammatical
      ∧ ((∀ n ∈ d.publicationYear, FitsInt32 n) → (∀ x ∈ d.coordinates, ReadsBack x)
        → ofJson? d.toJson = some d) := by
  have hresource := isCodec_tagged "value" "generalType" "Dataset" (by decide)
  have habstract := isCodec_tagged "value" "type" "Abstract" (by decide)
  have hcontact := isCodec_tagged "name" "contributorType" "ContactPerson" (by decide)
  have hrecord :=
    isCodec_ofString.optionalField "identifier" d.identifier
    <| isCodec_ofString.optionalField "repositoryIdentifier" d.repositoryIdentifier
    <| (isCodec_oneText "name").repeatedField "creators" d.creators
    <| (isCodec_oneText "value").repeatedField "titles" d.titles
    <| isCodec_ofString.optionalField "publisher" d.publisher
    <| isCodec_int32.optionalField "publicationYear" d.publicationYear
    <| hresource.optionalField "resourceType" d.resourceType
    <| TypedDate.isCodec.repeatedField "dates" d.dates
    <| habstract.repeatedField "descriptions" d.descriptions
    <| GeoLocation.isCodec.repeatedField "geoLocations" d.geoLocations
    <| ResearchData.isCodec.repeatedField "researchData" d.researchData
    <| WebLink.isCodec.repeatedField "webLinks" d.webLinks
    <| RelatedIdentifier.isCodec.repeatedField "relatedIdentifiers" d.relatedIdentifiers
    <| (isCodec_oneText "value").repeatedField "subjects" d.subjects
    <| hcontact.repeatedField "contributors" d.contributors
    <| isCodec_ofString.repeatedField "formats" d.formats
    <| isCodec_ofString.optionalField "language" d.language
    <| isRecord_mark "deleted" d.deleted
  simp only [← List.append_assoc] at hrecord
  refine ⟨hrecord.isGrammatical, fun hyear hcoordinates => ?_⟩
  have hfields : recordFields? fieldNames 17 d.toJson = some _ :=
    hrecord.recordFields? (by decide) 17
  have hplaces : ∀ g ∈ d.geoLocations, ∀ x ∈ g.coordinates, ReadsBack x := fun g hg x hx =>
    hcoordinates x (List.mem_flatMap.mpr ⟨g, hg, hx⟩)
  rw [ofJson?, hfields, Option.bind_eq_bind, Option.bind_some]
  exact bind_of_eq_some (isCodec_ofString.optional?_any d.identifier)
    <| bind_of_eq_some (isCodec_ofString.optional?_any d.repositoryIdentifier)
    <| bind_of_eq_some ((isCodec_oneText "name").list?_any d.creators)
    <| bind_of_eq_some ((isCodec_oneText "value").list?_any d.titles)
    <| bind_of_eq_some (isCodec_ofString.optional?_any d.publisher)
    <| bind_of_eq_some (isCodec_int32.optional? hyear)
    <| bind_of_eq_some (hresource.optional?_any d.resourceType)
    <| bind_of_eq_some (TypedDate.isCodec.list?_any d.dates)
    <| bind_of_eq_some (habstract.list?_any d.descriptions)
    <| bind_of_eq_some (GeoLocation.isCodec.list? hplaces)
    <| bind_of_eq_some (ResearchData.isCodec.list?_any d.researchData)
    <| bind_of_eq_some (WebLink.isCodec.list?_any d.webLinks)
    <| bind_of_eq_some (RelatedIdentifier.isCodec.list?_any d.relatedIdentifiers)
    <| bind_of_eq_some ((isCodec_oneText "value").list?_any d.subjects)
    <| bind_of_eq_some (hcontact.list?_any d.contributors)
    <| bind_of_eq_some (isCodec_ofString.list?_any d.formats)
    <| bind_of_eq_some (isCodec_ofString.optional?_any d.language)
    <| bind_of_eq_some (flag?_markValue d.deleted) rfl

end Document

end MetadataHarvest
