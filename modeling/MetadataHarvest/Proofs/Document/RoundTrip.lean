import MetadataHarvest.Proofs.Document.Codec

/-!
# Documents read back

A document is read from its own line as it was, and nothing in the line breaks it. What is
assumed is that the digits of its coordinates read back.

## Implementation notes

Reading scales the digits of a number by one power of ten and rounds once more, so the digits of
some numbers do not read back. The assumption is therefore made of the coordinates of the document
at hand, and not of all numbers.
-/

namespace MetadataHarvest.Document

open Json Number

/-- The digits that are written for the coordinates, where these are finite, read back. -/
def PrintsExactly (d : Document) : Prop := ∀ x ∈ d.coordinates, x.isFinite = true → ReadsBack x

theorem ofLine?_line {d : Document} (h : d.IsStorable) (hprints : d.PrintsExactly) :
    ofLine? d.line = some d := by
  obtain ⟨hgrammatical, hread⟩ := toJson_codec d
  rw [ofLine?, line, Value.read?_text hgrammatical, Option.bind_some]
  exact hread h.year fun x hx => hprints x hx (h.isFinite x hx)

/-- A line has no control characters. -/
theorem le_toNat_of_mem_line {d : Document} {c : Char} (h : c ∈ d.line.toList) :
    0x20 ≤ c.toNat := by
  rw [line, Value.text, String.toList_ofList] at h
  exact (toJson_codec d).1.le_toNat h

/-- A document whose coordinates are finite is read from its line as it was, and so are the
documents that records become and those that are read from any text. No line has a control
character, so it is one line. -/
theorem line_readsBack :
    (∀ d : Document, d.IsStorable → d.PrintsExactly → ofLine? d.line = some d)
      ∧ (∀ d : Document, ∀ c ∈ d.line.toList, 0x20 ≤ c.toNat)
      ∧ (∀ (t : Transformer) (record : Markup.Element) (d : Document),
        t.transform record = some d →
          d.IsStorable ∧ (d.PrintsExactly → ofLine? d.line = some d))
      ∧ (∀ (s : String) (d : Document), ofLine? s = some d →
          d.IsStorable ∧ (d.PrintsExactly → ofLine? d.line = some d)) := by
  refine ⟨fun d => ofLine?_line, fun d c => le_toNat_of_mem_line, ?_, ?_⟩
  · intro t record d h
    have hstorable := Transformer.isStorable_of_transform h
    exact ⟨hstorable, ofLine?_line hstorable⟩
  · intro s d h
    obtain ⟨v, -, hv⟩ := Option.bind_eq_some_iff.mp h
    have hstorable := isStorable_of_ofJson? hv
    exact ⟨hstorable, ofLine?_line hstorable⟩

section Place

/-- A place 10.5 degrees east on the equator. -/
def place : Document :=
  { repositoryIdentifier := some "a \"quoted\"\nname"
    publicationYear := some (-44)
    geoLocations := [.point (.ofDecimal false 105 (-1)) (.finite false .zero)] }

/-- The same document as another writer might lay it out. -/
def placeText : String :=
  "\x7b \"geoLocations\": [ \x7b\"point\": [1.05e+1, 0]\x7d ], \"publicationYear\": -44,
    \"repositoryIdentifier\": \"\\u0061 \\\"quoted\\\"\\nname\", \"language\": null, \"rank\": 1 \x7d"

theorem place_isStorable : place.IsStorable := by
  constructor <;> decide +kernel

theorem place_printsExactly : place.PrintsExactly := by
  have hreadsBack : ∀ x ∈ place.coordinates, ReadsBack x := by decide +kernel
  exact fun x hx _ => hreadsBack x hx

theorem line_readsBack_place :
    ofLine? place.line = some place
      ∧ ofLine? placeText = some place ∧ placeText ≠ place.line
      ∧ Transformer.transform ⟨"record", [], .nil⟩ (.iso19139 "name")
        = some { repositoryIdentifier := some "name" }
      ∧ ofLine? (line { repositoryIdentifier := some "name" })
        = some { repositoryIdentifier := some "name" } := by
  have hread : ofLine? placeText = some place := by decide +kernel
  have hrecord : Transformer.transform ⟨"record", [], .nil⟩ (.iso19139 "name")
      = some { repositoryIdentifier := some "name" } := by decide
  refine ⟨line_readsBack.1 place place_isStorable place_printsExactly, hread,
    by decide +kernel, hrecord, ?_⟩
  exact (line_readsBack.2.2.1 _ _ _ hrecord).2 (by simp [PrintsExactly, coordinates])

end Place

end MetadataHarvest.Document
