import MetadataHarvest.Format.Binding
import MetadataHarvest.Proofs.Text.Trim

/-!
# When a prefix binds

A prefix binds a transformer exactly when it is advertised with a schema that the catalog
supports, and then it binds the transformer of that schema. Outer blanks do not count.
-/

namespace MetadataHarvest

variable {catalog : Catalog} {formats : AdvertisedFormats}

theorem AdvertisedFormats.isEmpty_eq_false_of_schema? {name schema : String}
    (h : formats.schema? name = some schema) : formats.isEmpty = false := by
  obtain ⟨⟨entries, hn⟩⟩ := formats
  cases entries with
  | nil => simp [schema?, Registry.get?] at h
  | cons entry entries => rfl

/-- What binds is a prefix advertised with a supported schema. -/
theorem bindTransformer_eq_ok_iff {metadataPrefix : Option String} {t : Transformer} :
    bindTransformer catalog formats metadataPrefix = .ok t ↔
      ∃ name schema, metadataPrefix.bind Text.nonBlank? = some name ∧
        formats.schema? name = some schema ∧ catalog.transformer? schema = some t := by
  unfold bindTransformer
  constructor
  · intro h
    split at h
    · cases h
    · next name hname =>
        split at h
        · cases h
        · split at h
          · cases h
          · next schema hschema =>
              split at h
              · cases h
              · next t' ht =>
                  obtain rfl := Except.ok.inj h
                  exact ⟨name, schema, hname, hschema, ht⟩
  · rintro ⟨name, schema, hname, hschema, ht⟩
    have he := AdvertisedFormats.isEmpty_eq_false_of_schema? hschema
    simp only [hname, he, Bool.false_eq_true, if_false, hschema, ht]

theorem bindTransformer_toOption_eq_some_iff {metadataPrefix : Option String} {t : Transformer} :
    (bindTransformer catalog formats metadataPrefix).toOption = some t ↔
      ∃ name schema, metadataPrefix.bind Text.nonBlank? = some name ∧
        formats.schema? name = some schema ∧ catalog.transformer? schema = some t := by
  rw [← bindTransformer_eq_ok_iff]
  cases bindTransformer catalog formats metadataPrefix with
  | error cause => simp [Except.toOption]
  | ok t' => simp [Except.toOption]

/-- A prefix without its outer blanks binds what the prefix itself does. -/
theorem bindTransformer_trimmed (catalog : Catalog) (formats : AdvertisedFormats)
    (metadataPrefix : String) :
    bindTransformer catalog formats (some (Text.trimmed metadataPrefix)) =
      bindTransformer catalog formats (some metadataPrefix) := by
  simp only [bindTransformer, Option.bind_some, Text.nonBlank?_trimmed]

/-- A prefix that binds is not blank. -/
theorem nonBlank?_of_bindTransformer {metadataPrefix : String} {t : Transformer}
    (h : bindTransformer catalog formats (some metadataPrefix) = .ok t) :
    Text.nonBlank? metadataPrefix = some (Text.trimmed metadataPrefix) := by
  obtain ⟨name, -, hname, -, -⟩ := bindTransformer_eq_ok_iff.mp h
  rw [Option.bind_some] at hname
  rw [hname, (Text.nonBlank?_eq_some_iff.mp hname).1]

/-- Without a prefix nothing binds. -/
theorem bindTransformer_none (catalog : Catalog) (formats : AdvertisedFormats) :
    bindTransformer catalog formats none =
      .error (.emptyPrefix (formats.usablePrefixes catalog)) := rfl

/-- Where no format is known nothing binds. -/
theorem bindTransformer_empty_ne_ok (catalog : Catalog) (metadataPrefix : Option String)
    (t : Transformer) : bindTransformer catalog .empty metadataPrefix ≠ .ok t := by
  intro h
  obtain ⟨name, schema, -, hschema, -⟩ := bindTransformer_eq_ok_iff.mp h
  exact absurd hschema (by simp [AdvertisedFormats.schema?, AdvertisedFormats.empty,
    Registry.get?, Registry.empty])

end MetadataHarvest
