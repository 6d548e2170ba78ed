import MetadataHarvest.Proofs.Document.Storable
import MetadataHarvest.Proofs.Markup.Replacement
import MetadataHarvest.Proofs.Record.Iso19139
import MetadataHarvest.Proofs.Record.Withdrawn

/-!
# The places of geographic records

A bounding box gives a place when the first text for each of its edges is a finite number, and it
is passed over otherwise. The places follow the document order of the boxes, so what stands in one
box decides about the place of that box only.
-/

namespace MetadataHarvest.Iso19139

open Markup Record Number

/-- The name of a bounding box. -/
def boxName : String := "gmd:EX_GeographicBoundingBox"

/-- The text of the first descendant of the box with this name is this finite number. -/
def IsEdge (box : Element) (name : String) (x : Binary64) : Prop :=
  ∃ text, firstTextBelow? box [] name = some text ∧
    readLiteral (Text.trim text.toList) = .ok x ∧ x.isFinite = true

/-- The edges of a bounding box. -/
structure Bounds (box : Element) (west east south north : Binary64) : Prop where
  west : IsEdge box "gmd:westBoundLongitude" west
  east : IsEdge box "gmd:eastBoundLongitude" east
  south : IsEdge box "gmd:southBoundLatitude" south
  north : IsEdge box "gmd:northBoundLatitude" north

/-- The places that bounding boxes give, in order. -/
inductive Places : List Element → List GeoLocation → Prop
  | nil : Places [] []
  | point {box : Element} {west east south north : Binary64} {boxes : List Element}
    {places : List GeoLocation} :
    Bounds box west east south north → west.sameNumber east ∧ south.sameNumber north →
    Places boxes places → Places (box :: boxes) (.point west south :: places)
  | box {box : Element} {west east south north : Binary64} {boxes : List Element}
    {places : List GeoLocation} :
    Bounds box west east south north → ¬ (west.sameNumber east ∧ south.sameNumber north) →
    Places boxes places → Places (box :: boxes) (.box west east south north :: places)
  | skipped {box : Element} {boxes : List Element} {places : List GeoLocation} :
    (∀ west east south north, ¬ Bounds box west east south north) →
    Places boxes places → Places (box :: boxes) places

/-- The second record is the first one with another bounding box in the place of one of its own.
The box stands in no other one, and none stands in it before or after. -/
structure Refilled (box box' record record' : Element) : Prop where
  name : box.name = boxName
  name' : box'.name = boxName
  alone : box.named boxName = []
  alone' : box'.named boxName = []
  replaced : Element.Replaced boxName box box' record record'

/-- The two lists differ at most in the place that each of two boxes gives, if it gives one. -/
inductive DifferIn (box box' : Element) : List GeoLocation → List GeoLocation → Prop
  | same (places : List GeoLocation) : DifferIn box box' places places
  | here (front back : List GeoLocation) {own own' : List GeoLocation} (hown : Places [box] own)
      (hown' : Places [box'] own') :
      DifferIn box box' (front ++ (own ++ back)) (front ++ (own' ++ back))

variable {box box' metadata record record' : Element}
  {x west east south north : Binary64} {place : GeoLocation}

theorem coordinate_eq_ok_iff {value : String} :
    coordinate value = .ok x ↔
      readLiteral (Text.trim value.toList) = .ok x ∧ x.isFinite = true := by
  unfold coordinate
  split
  · next hfault => simp [hfault]
  · next y hy =>
      rw [hy, Except.ok.injEq]
      split
      · next hfinite =>
          rw [Except.ok.injEq]
          exact ⟨fun h => ⟨h, h ▸ hfinite⟩, And.left⟩
      · next hinfinite =>
          refine ⟨nofun, ?_⟩
          rintro ⟨rfl, hfinite⟩
          exact absurd hfinite hinfinite

theorem edge?_eq_some_iff (name : String) (hname : Selector.names name = [] ++ [name]) :
    edge? box name = some x ↔ IsEdge box name x := by
  rw [edge?, firstText?_eq hname, Option.bind_eq_some_iff, IsEdge]
  refine exists_congr fun text => and_congr_right fun _ => ?_
  rw [← coordinate_eq_ok_iff]
  cases coordinate text <;> simp [Except.toOption]

theorem geoLocation?_eq_some_iff :
    geoLocation? box = some place ↔ ∃ west east south north,
      Bounds box west east south north ∧ .ofBounds west east south north = place := by
  simp only [geoLocation?, bind, pure, Option.bind_eq_some_iff, Option.some.injEq,
    edge?_eq_some_iff "gmd:westBoundLongitude" (by decide),
    edge?_eq_some_iff "gmd:eastBoundLongitude" (by decide),
    edge?_eq_some_iff "gmd:southBoundLatitude" (by decide),
    edge?_eq_some_iff "gmd:northBoundLatitude" (by decide)]
  constructor
  · rintro ⟨west, hwest, east, heast, south, hsouth, north, hnorth, rfl⟩
    exact ⟨west, east, south, north, ⟨hwest, heast, hsouth, hnorth⟩, rfl⟩
  · rintro ⟨west, east, south, north, hbounds, rfl⟩
    exact ⟨west, hbounds.west, east, hbounds.east, south, hbounds.south, north, hbounds.north, rfl⟩

theorem places_filterMap (boxes : List Element) : Places boxes (boxes.filterMap geoLocation?) := by
  induction boxes with
  | nil => exact .nil
  | cons box boxes ih =>
      cases h : geoLocation? box with
      | none =>
          rw [List.filterMap_cons_none h]
          refine .skipped (fun west east south north hbounds => ?_) ih
          rw [geoLocation?_eq_some_iff.mpr ⟨west, east, south, north, hbounds, rfl⟩] at h
          cases h
      | some place =>
          rw [List.filterMap_cons_some h]
          obtain ⟨west, east, south, north, hbounds, rfl⟩ := geoLocation?_eq_some_iff.mp h
          rw [GeoLocation.ofBounds]
          split
          · next hsame => exact .point hbounds (by simpa using hsame) ih
          · next hdiffer => exact .box hbounds (by simpa using hdiffer) ih

theorem geoLocations_addMetadata (document : Document) (metadata : Element) :
    (addMetadata document metadata).geoLocations =
      (metadata.named boxName).filterMap geoLocation? := by
  have hnames : Selector.names "gmd:EX_GeographicBoundingBox" = [boxName] := by decide
  rw [addMetadata, Element.select_eq_named hnames]

section Refill

variable (h : Refilled box box' record record')

include h

theorem Refilled.childLocal? (other : String) (hother : localPart boxName ≠ other) :
    record'.childLocal? other = record.childLocal? other ∨
      ∃ child child', record.childLocal? other = some child ∧
        record'.childLocal? other = some child' ∧
        Element.Replaced boxName box box' child child' := by
  have hlocal : box.localName = localPart boxName := congrArg localPart h.name
  apply h.replaced.childLocal?
  · rwa [hlocal]
  · rw [hlocal]
    exact congrArg localPart h.name'

/-- A record is not withdrawn by other content in its header. -/
theorem Refilled.isDeleted_eq : isDeleted record' = isDeleted record := by
  rcases h.childLocal? "header" (by decide) with
    hsame | ⟨header, header', hheader, hheader', hinside⟩
  · exact isDeleted_congr hsame
  · simp only [isDeleted, header?, hheader, hheader', Option.bind_some, Element.attribute?,
      hinside.attributes_eq]

/-- The boxes in the metadata are the same but for the one that was replaced. -/
theorem Refilled.differIn {metadata' : Element}
    (hinside : Element.Replaced boxName box box' metadata metadata') :
    DifferIn box box' ((metadata.named boxName).filterMap geoLocation?)
      ((metadata'.named boxName).filterMap geoLocation?) := by
  obtain ⟨front, back, hboxes, hboxes'⟩ := hinside.named h.name h.name' h.alone h.alone'
  have hsplit (e : Element) : (front ++ e :: back).filterMap geoLocation? =
      front.filterMap geoLocation? ++ ([e].filterMap geoLocation? ++
        back.filterMap geoLocation?) := by
    rw [← List.filterMap_append, ← List.filterMap_append, List.singleton_append]
  rw [hboxes, hboxes', hsplit, hsplit]
  exact .here _ _ (places_filterMap [box]) (places_filterMap [box'])

theorem Refilled.transform {identifier : String} {d : Document} (hkept : isDeleted record = false)
    (hmetadata : metadata? record = some metadata)
    (hd : (Transformer.iso19139 identifier).transform record = some d) :
    ∃ d', (Transformer.iso19139 identifier).transform record' = some d' ∧
      DifferIn box box' d.geoLocations d'.geoLocations := by
  have hkept' : isDeleted record' = false := h.isDeleted_eq.trans hkept
  obtain rfl := Option.some.inj ((transform_kept identifier hkept hmetadata).symm.trans hd)
  rw [geoLocations_addMetadata]
  rcases h.childLocal? "metadata" (by decide) with
    hsame | ⟨child, metadata', hchild, hmetadata', hinside⟩
  · refine ⟨_, transform_kept identifier hkept' (hsame.trans hmetadata), ?_⟩
    rw [geoLocations_addMetadata]
    exact .same _
  · obtain rfl := Option.some.inj (hmetadata.symm.trans hchild)
    refine ⟨_, transform_kept identifier hkept' hmetadata', ?_⟩
    rw [geoLocations_addMetadata]
    exact h.differIn hinside

end Refill

/-- A record that was not withdrawn becomes a document with a place for each bounding box whose
edges are all numbers, in document order. Other content in one box changes at most the place of
that box, and the numbers in documents are all finite. -/
theorem transform_placed (identifier : String) (hkept : isDeleted record = false)
    (hmetadata : metadata? record = some metadata) :
    ∃ d, (Transformer.iso19139 identifier).transform record = some d ∧
      Places (metadata.named boxName) d.geoLocations ∧
      (∀ box box' record', Refilled box box' record record' →
        ∃ d', (Transformer.iso19139 identifier).transform record' = some d' ∧
          DifferIn box box' d.geoLocations d'.geoLocations) ∧
      ∀ (t : Transformer) (other : Element) (d' : Document), t.transform other = some d' →
        ∀ x ∈ d'.coordinates, x.isFinite = true := by
  have hd := transform_kept identifier hkept hmetadata
  refine ⟨_, hd, ?_, fun box box' record' h => h.transform hkept hmetadata hd, ?_⟩
  · rw [geoLocations_addMetadata]
    exact places_filterMap _
  · intro t other d' hd'
    exact (Transformer.isStorable_of_transform hd').isFinite

/-- A bounding box with these texts for its edges. -/
def boxOf (west east south north : String) : Element :=
  let edge (name value : String) : Node := .element ⟨name, [], .ofNodes [.text value]⟩
  ⟨boxName, [], .ofNodes [
    edge "gmd:westBoundLongitude" west, edge "gmd:eastBoundLongitude" east,
    edge "gmd:southBoundLatitude" south, edge "gmd:northBoundLatitude" north]⟩

/-- Metadata with this box and one without extent after it. -/
def placedMetadata (box : Element) : Element :=
  ⟨"metadata", [], .ofNodes [
    .element ⟨"gmd:geographicElement", [], .ofNodes [.element box]⟩,
    .element (boxOf "7" "7.0" "-0" "0")]⟩

def placedRecord (box : Element) : Element :=
  ⟨"record", [], .ofNodes [.element (placedMetadata box)]⟩

/-- A box with an infinite edge is passed over. With a finite one in its place it gives a place
before that of the other box. -/
theorem transform_placed_infinite :
    let box := boxOf "1" "2" "inf" "4"
    let box' := boxOf "1" "2" "3" "4"
    isDeleted (placedRecord box) = false ∧
      metadata? (placedRecord box) = some (placedMetadata box) ∧
      Refilled box box' (placedRecord box) (placedRecord box') ∧
      ∃ d, (Transformer.iso19139 "archive").transform (placedRecord box) = some d ∧
        Places ((placedMetadata box).named boxName) d.geoLocations ∧ d.geoLocations.length = 1 ∧
        (∀ x ∈ d.coordinates, x.isFinite = true) ∧
        ∃ d', (Transformer.iso19139 "archive").transform (placedRecord box') = some d' ∧
          DifferIn box box' d.geoLocations d'.geoLocations ∧ d'.geoLocations.length = 2 := by
  intro box box'
  have hkept : isDeleted (placedRecord box) = false := by decide
  have hmetadata : metadata? (placedRecord box) = some (placedMetadata box) := by decide
  have hrefilled : Refilled box box' (placedRecord box) (placedRecord box') := by
    refine ⟨rfl, rfl, by decide, by decide, .inside (by decide) (.inside [] [] (by decide) ?_)⟩
    exact .inside [] [.element (boxOf "7" "7.0" "-0" "0")] (by decide) (.here [] [])
  obtain ⟨d, hd, hplaces, hother, hfinite⟩ := transform_placed "archive" hkept hmetadata
  obtain ⟨d', hd', hdiffer⟩ := hother box box' _ hrefilled
  refine ⟨hkept, hmetadata, hrefilled, d, hd, hplaces, ?_, hfinite _ _ d hd, d', hd', hdiffer, ?_⟩
  · obtain rfl := Option.some.inj ((transform_kept _ hkept hmetadata).symm.trans hd)
    decide +kernel
  · have hkept' : isDeleted (placedRecord box') = false := by decide
    have hmetadata' : metadata? (placedRecord box') = some (placedMetadata box') := by decide
    obtain rfl := Option.some.inj ((transform_kept _ hkept' hmetadata').symm.trans hd')
    decide +kernel

end MetadataHarvest.Iso19139
