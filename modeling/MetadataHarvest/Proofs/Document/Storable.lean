import MetadataHarvest.Document.Json
import MetadataHarvest.Format.Transformer

/-!
# What documents can hold

The year of a document has 32 bits, and its coordinates are finite. This holds of every document
that a record becomes, because a year is that of a date or is compared with the largest, and a
coordinate that is not finite is refused. It also holds of every document that is read.
-/

namespace MetadataHarvest

open Json Number

/-- Whether an integer has 32 bits. -/
def FitsInt32 (n : Int) : Prop := -Int.pow 2 31 ≤ n ∧ n < Int.pow 2 31

instance (n : Int) : Decidable (FitsInt32 n) := inferInstanceAs (Decidable (_ ∧ _))

namespace GeoLocation

/-- The numbers that give the place. -/
def coordinates : GeoLocation → List Binary64
  | point longitude latitude => [longitude, latitude]
  | box west east south north => [west, east, south, north]

end GeoLocation

namespace Document

/-- The numbers of all the places. -/
def coordinates (d : Document) : List Binary64 := d.geoLocations.flatMap (·.coordinates)

/-- What the fields of a document can hold: a year of 32 bits and finite coordinates. -/
structure IsStorable (d : Document) : Prop where
  year : ∀ n ∈ d.publicationYear, FitsInt32 n
  isFinite : ∀ x ∈ d.coordinates, x.isFinite = true

end Document

section Reading

namespace Json

theorem fitsInt32_of_int32? {v : Value} {n : Int} (h : int32? v = some n) : FitsInt32 n := by
  unfold int32? at h
  split at h
  · simpa [FitsInt32] using (Option.filter_eq_some_iff.mp h).2
  · cases h

theorem isFinite_of_binary64? {v : Value} {x : Binary64} (h : binary64? v = some x) :
    x.isFinite = true := by
  unfold binary64? at h
  split at h
  · obtain ⟨magnitude, -, rfl⟩ := Option.map_eq_some_iff.mp h
    rfl
  · cases h

theorem exists_of_optional? {α : Type} {decode : Value → Option α} {v? : Option Value} {a : α}
    (h : optional? decode v? = some (some a)) : ∃ v, decode v = some a := by
  unfold optional? at h
  split at h
  · cases h
  · cases h
  · exact ⟨_, by simpa using h⟩

theorem exists_of_mem_mapM {α β : Type} {f : α → Option β} {as : List α} {bs : List β}
    (h : as.mapM f = some bs) {b : β} (hb : b ∈ bs) : ∃ a ∈ as, f a = some b := by
  induction as generalizing bs with
  | nil =>
      cases h
      cases hb
  | cons a as ih =>
      simp only [List.mapM_cons, Option.bind_eq_bind, Option.bind_eq_some_iff, Option.pure_def,
        Option.some.injEq] at h
      obtain ⟨c, hc, cs, hcs, rfl⟩ := h
      rcases List.mem_cons.mp hb with rfl | hb
      · exact ⟨a, List.mem_cons_self, hc⟩
      · obtain ⟨d, hd, hfd⟩ := ih hcs hb
        exact ⟨d, List.mem_cons_of_mem _ hd, hfd⟩

theorem exists_of_list? {α : Type} {decode : Value → Option α} {v? : Option Value} {as : List α}
    (h : list? decode v? = some as) {a : α} (ha : a ∈ as) : ∃ v, decode v = some a := by
  unfold list? at h
  split at h
  · cases h
    cases ha
  · obtain ⟨v, -, hv⟩ := exists_of_mem_mapM h ha
    exact ⟨v, hv⟩
  · cases h

end Json

theorem Json.isFinite_of_mapM {values : List Value} {xs : List Binary64}
    (h : values.mapM binary64? = some xs) : ∀ x ∈ xs, x.isFinite = true := by
  intro x hx
  obtain ⟨v, -, hv⟩ := exists_of_mem_mapM h hx
  exact isFinite_of_binary64? hv

theorem GeoLocation.isFinite_of_ofJson? {v : Value} {g : GeoLocation} (h : ofJson? v = some g) :
    ∀ x ∈ g.coordinates, x.isFinite = true := by
  unfold ofJson? at h
  split at h
  · obtain ⟨values, -, h⟩ := Option.bind_eq_some_iff.mp h
    obtain ⟨xs, hxs, h⟩ := Option.bind_eq_some_iff.mp h
    split at h
    · cases h
      exact isFinite_of_mapM hxs
    · cases h
  · obtain ⟨values, -, h⟩ := Option.bind_eq_some_iff.mp h
    obtain ⟨xs, hxs, h⟩ := Option.bind_eq_some_iff.mp h
    split at h
    · cases h
      exact isFinite_of_mapM hxs
    · cases h
  · cases h

/-- A document that is read has a year of 32 bits and finite coordinates. -/
theorem Document.isStorable_of_ofJson? {v : Value} {d : Document} (h : ofJson? v = some d) :
    d.IsStorable := by
  obtain ⟨values, -, h⟩ := Option.bind_eq_some_iff.mp h
  split at h
  · iterate 5 obtain ⟨_, -, h⟩ := Option.bind_eq_some_iff.mp h
    obtain ⟨year, hyear, h⟩ := Option.bind_eq_some_iff.mp h
    iterate 3 obtain ⟨_, -, h⟩ := Option.bind_eq_some_iff.mp h
    obtain ⟨places, hplaces, h⟩ := Option.bind_eq_some_iff.mp h
    iterate 8 obtain ⟨_, -, h⟩ := Option.bind_eq_some_iff.mp h
    cases h
    constructor
    · rintro n rfl
      obtain ⟨w, hw⟩ := exists_of_optional? hyear
      exact fitsInt32_of_int32? hw
    · intro x hx
      obtain ⟨g, hg, hx⟩ := List.mem_flatMap.mp hx
      obtain ⟨w, hw⟩ := exists_of_list? hplaces hg
      exact GeoLocation.isFinite_of_ofJson? hw x hx
  · cases h

end Reading

section Records

theorem Calendar.Date.fitsInt32 (date : Calendar.Date) : FitsInt32 date.year := by
  have hlow := date.year_range.1
  have hhigh := date.year_range.2
  have hbound : Int.pow 2 31 = 2147483648 := rfl
  simp only [Calendar.firstYear, Calendar.lastYear] at hlow hhigh
  simp only [FitsInt32]
  omega

theorem Calendar.yearMonth?_le {cs : List Char} {n : Int} (h : yearMonth? cs = some n) :
    0 ≤ n ∧ n ≤ greatestYear := by
  unfold yearMonth? at h
  dsimp only at h
  split at h
  · next hyear =>
      cases h
      simp only [Bool.and_eq_true, decide_eq_true_eq] at hyear
      exact ⟨Int.natCast_nonneg _, hyear.2⟩
  · cases h

theorem Calendar.fitsInt32_of_partialYear? {cs : List Char} {n : Int}
    (h : partialYear? cs = some n) : FitsInt32 n := by
  have hbound : greatestYear = Int.pow 2 31 - 1 := rfl
  simp only [FitsInt32]
  unfold partialYear? at h
  split at h
  · obtain ⟨m, hm, rfl⟩ := Option.map_eq_some_iff.mp h
    have := yearMonth?_le hm
    omega
  · have := yearMonth?_le h
    omega

/-- A year that a text names is that of a date or within the bound of years. -/
theorem Calendar.fitsInt32_of_year? {cs : List Char} {n : Int} (h : year? cs = some n) :
    FitsInt32 n := by
  simp only [year?, Option.orElse_eq_or, Option.or_eq_some_iff] at h
  rcases h with h | ⟨-, h | ⟨-, h⟩⟩
  · obtain ⟨date, -, rfl⟩ := Option.map_eq_some_iff.mp h
    exact date.fitsInt32
  · split at h
    · split at h
      · cases h
        exact Date.fitsInt32 _
      · cases h
    · cases h
  · exact fitsInt32_of_partialYear? h

theorem DublinCore.isStorable_document (record : Markup.Element) :
    (DublinCore.document record).IsStorable := by
  unfold document
  dsimp only
  split
  · exact ⟨by simp [Document.tombstone], by simp [Document.tombstone, Document.coordinates]⟩
  · split
    · exact ⟨by simp, by simp [Document.coordinates]⟩
    · next metadata _ =>
        refine ⟨?_, by simp [addMetadata, Document.coordinates]⟩
        intro n hn
        obtain ⟨⟨date, year⟩, havailability, rfl⟩ := Option.map_eq_some_iff.mp hn
        obtain ⟨value, -, hvalue⟩ := Option.bind_eq_some_iff.mp havailability
        obtain ⟨date, -, hdate⟩ := Option.map_eq_some_iff.mp hvalue
        cases hdate
        exact date.fitsInt32

theorem GeoLocation.mem_coordinates_ofBounds {west east south north x : Binary64}
    (h : x ∈ (ofBounds west east south north).coordinates) : x ∈ [west, east, south, north] := by
  unfold ofBounds at h
  split at h
  · simp only [coordinates, List.mem_cons, List.not_mem_nil, or_false] at h ⊢
    rcases h with h | h
    · exact .inl h
    · exact .inr (.inr (.inl h))
  · exact h

theorem Iso19139.isFinite_of_edge? {box : Markup.Element} {selector : String} {x : Binary64}
    (h : edge? box selector = some x) : x.isFinite = true := by
  obtain ⟨value, -, hx⟩ := Option.bind_eq_some_iff.mp h
  cases hc : coordinate value with
  | error fault => simp [hc, Except.toOption] at hx
  | ok y =>
      rw [hc] at hx
      cases hx
      exact isFinite_of_coordinate hc

theorem Iso19139.isFinite_of_geoLocation? {box : Markup.Element} {g : GeoLocation}
    (h : geoLocation? box = some g) : ∀ x ∈ g.coordinates, x.isFinite = true := by
  simp only [geoLocation?, Option.bind_eq_bind, Option.bind_eq_some_iff, Option.pure_def,
    Option.some.injEq] at h
  obtain ⟨west, hwest, east, heast, south, hsouth, north, hnorth, rfl⟩ := h
  intro x hx
  have hedge := GeoLocation.mem_coordinates_ofBounds hx
  simp only [List.mem_cons, List.not_mem_nil, or_false] at hedge
  rcases hedge with rfl | rfl | rfl | rfl
  · exact isFinite_of_edge? hwest
  · exact isFinite_of_edge? heast
  · exact isFinite_of_edge? hsouth
  · exact isFinite_of_edge? hnorth

theorem Iso19139.fitsInt32_of_publicationYear? {dates : List TypedDate} {metadata : Markup.Element}
    {n : Int} (h : publicationYear? dates (datestampYear? metadata) = some n) : FitsInt32 n := by
  simp only [publicationYear?, Option.orElse_eq_or, Option.or_eq_some_iff] at h
  rcases h with h | ⟨-, h⟩
  · obtain ⟨date, -, hyear⟩ := Option.bind_eq_some_iff.mp h
    exact Calendar.fitsInt32_of_year? hyear
  · obtain ⟨value, -, hyear⟩ := Option.bind_eq_some_iff.mp h
    exact Calendar.fitsInt32_of_year? hyear

theorem Iso19139.isStorable_of_document? {repositoryIdentifier : String} {record : Markup.Element}
    {d : Document} (h : document? repositoryIdentifier record = some d) : d.IsStorable := by
  unfold document? at h
  split at h
  · cases h
  · cases h
    split
    · exact ⟨by simp, by simp [Document.coordinates]⟩
    · refine ⟨fun n hn => fitsInt32_of_publicationYear? hn, fun x hx => ?_⟩
      obtain ⟨g, hg, hx⟩ := List.mem_flatMap.mp hx
      obtain ⟨box, -, hbox⟩ := List.mem_filterMap.mp hg
      exact isFinite_of_geoLocation? hbox x hx

/-- A document that a record becomes has a year of 32 bits and finite coordinates. -/
theorem Transformer.isStorable_of_transform {t : Transformer} {record : Markup.Element}
    {d : Document} (h : t.transform record = some d) : d.IsStorable := by
  cases t with
  | dublinCore =>
      cases h
      exact DublinCore.isStorable_document record
  | iso19139 repositoryIdentifier => exact Iso19139.isStorable_of_document? h

end Records

end MetadataHarvest
