import MetadataHarvest.Format.Transformer
import MetadataHarvest.Proofs.Markup.Prefix

/-!
# Records with other prefixes

The document of a record does not depend on the prefixes of the record, its children and the
children of its header. What stands in the metadata is looked up with prefixes, so nothing may
differ there.
-/

namespace MetadataHarvest

open Markup

/-- The second record is the first one with other prefixes for itself, its children and the
children of its header, and other declarations of namespaces there. -/
def Record.Reprefixed : Element → Element → Prop :=
  Element.Reprefixed (Content.Each
    (Element.Within "header" (Element.Reprefixed (Content.Each (Element.Reprefixed Eq)))))

/-- A function that does not tell related values apart gives the same for both. -/
theorem bind_eq_of_rel {α β : Type} {S : α → α → Prop} {a b : Option α} {f : α → Option β}
    (h : Option.Rel S a b) (hf : ∀ x y, S x y → f y = f x) : b.bind f = a.bind f := by
  cases h with
  | none => rfl
  | some hxy => exact hf _ _ hxy

namespace Record

theorem Reprefixed.refl (record : Element) : Reprefixed record record :=
  Element.Reprefixed.refl (Content.Each.refl (Element.Within.refl
    (Element.Reprefixed.refl (Content.Each.refl (Element.Reprefixed.refl fun _ => rfl))))) record

variable {e e' record record' : Element}

theorem elementText?_eq_of_reprefixed (h : e.Reprefixed Eq e') :
    elementText? e' = elementText? e := by
  rw [elementText?, elementText?, h.text_eq]

/-- Selectors look at the content alone. -/
theorem select_eq_of_reprefixed (h : e.Reprefixed Eq e') : e'.select = e.select := by
  funext selector
  rw [Element.select, Element.select, h.content]

section Envelope

variable (h : Reprefixed record record')

include h

theorem header?_rel :
    Option.Rel (Element.Reprefixed (Content.Each (Element.Reprefixed Eq))) (header? record)
      (header? record') :=
  Element.childLocal?_named h.content

theorem metadata?_rel :
    Option.Rel (Element.Reprefixed Eq) (metadata? record) (metadata? record') :=
  Element.childLocal?_other h.content (by decide)

theorem isDeleted_eq_of_reprefixed : isDeleted record' = isDeleted record := by
  rw [isDeleted, isDeleted, bind_eq_of_rel (header?_rel h)]
  intro header header' hheader
  exact hheader.attribute?_eq (by decide)

theorem headerText?_eq_of_reprefixed (name : String) :
    headerText? record' name = headerText? record name := by
  rw [headerText?, headerText?, Option.bind_assoc, Option.bind_assoc]
  apply bind_eq_of_rel (header?_rel h)
  intro header header' hheader
  apply bind_eq_of_rel (Element.childLocal?_reprefixed hheader.content name)
  intro child child' hchild
  exact elementText?_eq_of_reprefixed hchild

end Envelope

end Record

open Record

variable {metadata metadata' record record' : Element}

theorem DublinCore.addMetadata_eq_of_reprefixed (h : metadata.Reprefixed Eq metadata')
    (document : Document) : addMetadata document metadata' = addMetadata document metadata := by
  simp only [addMetadata, availability?, firstText?, allTexts, Element.selectFirst?,
    select_eq_of_reprefixed h]

theorem Iso19139.addMetadata_eq_of_reprefixed (h : metadata.Reprefixed Eq metadata')
    (document : Document) : addMetadata document metadata' = addMetadata document metadata := by
  simp only [addMetadata, datestampYear?, resourceType?, researchData?, citationDates, firstText?,
    Element.selectFirst?, select_eq_of_reprefixed h]

theorem DublinCore.document_eq_of_reprefixed (h : Reprefixed record record') :
    document record' = document record := by
  have hmetadata := metadata?_rel h
  simp only [document, isDeleted_eq_of_reprefixed h, headerText?_eq_of_reprefixed h]
  generalize metadata? record = before, metadata? record' = after at hmetadata
  cases hmetadata with
  | none => rfl
  | some hmetadata => simp only [addMetadata_eq_of_reprefixed hmetadata]

theorem Iso19139.document?_eq_of_reprefixed (h : Reprefixed record record')
    (repositoryIdentifier : String) :
    document? repositoryIdentifier record' = document? repositoryIdentifier record := by
  have hmetadata := metadata?_rel h
  simp only [document?, isDeleted_eq_of_reprefixed h]
  generalize metadata? record = before, metadata? record' = after at hmetadata
  cases hmetadata with
  | none => rfl
  | some hmetadata => simp only [addMetadata_eq_of_reprefixed hmetadata]

/-- A record becomes the same document under any prefixes. -/
theorem Transformer.transform_eq_of_reprefixed (t : Transformer) (h : Reprefixed record record') :
    t.transform record' = t.transform record := by
  cases t with
  | dublinCore => exact congrArg some (DublinCore.document_eq_of_reprefixed h)
  | iso19139 repositoryIdentifier =>
      exact Iso19139.document?_eq_of_reprefixed h repositoryIdentifier

end MetadataHarvest
