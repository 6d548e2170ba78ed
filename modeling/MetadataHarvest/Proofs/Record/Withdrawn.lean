import MetadataHarvest.Format.Transformer
import MetadataHarvest.Markup.Document
import MetadataHarvest.Proofs.Record.Texts

/-!
# Withdrawn records

What becomes of a record that was withdrawn is up to the policy of its transformer: it is
skipped, or it becomes a tombstone. A tombstone is made of two texts of the header alone, so
metadata that the repository still sends along does not come through.
-/

namespace MetadataHarvest

open Markup

namespace Record

variable {record other : Element}

/-- Whether a record was withdrawn is said by its header. -/
theorem isDeleted_congr (h : header? other = header? record) :
    isDeleted other = isDeleted record := by
  rw [isDeleted, h, isDeleted]

theorem headerText?_congr (h : header? other = header? record) (name : String) :
    headerText? other name = headerText? record name := by
  rw [headerText?, h, headerText?]

end Record

open Record

namespace DublinCore

theorem document_of_isDeleted {record : Element} (h : isDeleted record = true) :
    document record =
      .tombstone (headerText? record "identifier") (headerText? record "datestamp") := by
  rw [document, if_pos h]

/-- A document is marked as withdrawn when its record is. -/
theorem deleted_document (record : Element) :
    (document record).deleted = isDeleted record := by
  by_cases h : isDeleted record = true
  · rw [document_of_isDeleted h, h]
    rfl
  · rw [document, if_neg h, Bool.eq_false_iff.mpr h]
    cases metadata? record with
    | none => rfl
    | some metadata => rfl

end DublinCore

namespace Iso19139

variable {repositoryIdentifier : String} {record : Element}

/-- There is no document exactly when the record was withdrawn. -/
theorem document?_eq_none_iff :
    document? repositoryIdentifier record = none ↔ isDeleted record = true := by
  unfold document?
  split
  · next h => exact iff_of_true rfl h
  · next h => exact iff_of_false (Option.some_ne_none _) h

/-- No document is marked as withdrawn, since none is one of such a record. -/
theorem deleted_of_document? {document : Document}
    (h : document? repositoryIdentifier record = some document) :
    document.deleted = isDeleted record := by
  unfold document? at h
  split at h
  · cases h
  · next hkept =>
      obtain rfl := Option.some.inj h
      rw [Bool.eq_false_iff.mpr hkept]
      cases metadata? record with
      | none => rfl
      | some metadata => rfl

end Iso19139

namespace Transformer

variable {t : Transformer} {record : Element}

/-- A record is skipped when it was withdrawn and the policy is to skip it. -/
theorem transform_eq_none_iff :
    t.transform record = none ↔ isDeleted record = true ∧ t.policy = .skip := by
  cases t with
  | dublinCore => exact iff_of_false (Option.some_ne_none _) nofun
  | iso19139 repositoryIdentifier =>
      rw [transform, Iso19139.document?_eq_none_iff]
      exact (and_iff_left rfl).symm

/-- A document is marked as withdrawn when its record is. -/
theorem deleted_of_transform {document : Document} (h : t.transform record = some document) :
    document.deleted = isDeleted record := by
  cases t with
  | dublinCore =>
      rw [← Option.some.inj h]
      exact DublinCore.deleted_document record
  | iso19139 repositoryIdentifier => exact Iso19139.deleted_of_document? h

/-- A withdrawn record that is not skipped becomes a tombstone. -/
theorem transform_of_isDeleted (hdeleted : isDeleted record = true)
    (hpolicy : t.policy = .tombstone) :
    t.transform record =
      some (.tombstone (headerText? record "identifier") (headerText? record "datestamp")) := by
  cases t with
  | dublinCore => rw [transform, DublinCore.document_of_isDeleted hdeleted]
  | iso19139 repositoryIdentifier => cases hpolicy

/-- What becomes of a record under any transformer. It is skipped exactly when it was
withdrawn and the policy is to skip it, and a document is marked as withdrawn exactly when the
record is. A tombstone holds the identifier of the header, its datestamp as the one date, and
the mark, and nothing else: it is the same for all records with this header. -/
theorem transform_withdrawn (t : Transformer) (record : Element) :
    (t.transform record = none ↔ isDeleted record = true ∧ t.policy = .skip) ∧
    (∀ document, t.transform record = some document → document.deleted = isDeleted record) ∧
    (isDeleted record = true → t.policy = .tombstone →
      let document : Document :=
        { identifier := stated? record "identifier"
          dates := (stated? record "datestamp").toList.map (⟨·, .updated⟩)
          deleted := true }
      t.transform record = some document ∧ document.dates.length ≤ 1 ∧
        ∀ other, header? other = header? record → t.transform other = some document) := by
  refine ⟨transform_eq_none_iff, fun document => deleted_of_transform, ?_⟩
  intro hdeleted hpolicy
  rw [← headerText?_eq record "identifier", ← headerText?_eq record "datestamp"]
  refine ⟨transform_of_isDeleted hdeleted hpolicy, ?_, ?_⟩
  · rw [List.length_map, Option.length_toList]
    split
    · exact Nat.le_refl 1
    · exact Nat.zero_le 1
  · intro other hheader
    have hother : isDeleted other = true := (isDeleted_congr hheader).trans hdeleted
    rw [transform_of_isDeleted hother hpolicy, headerText?_congr hheader,
      headerText?_congr hheader]
    rfl

/-- The title that still stands in a withdrawn record does not come through. -/
example :
    let body := "<r><header status=\"deleted\"/><metadata><dc:title>t</dc:title></metadata></r>"
    (Element.parse body).toOption.bind (transform · dublinCore) = some { deleted := true } := by
  decide +kernel

end Transformer

end MetadataHarvest
