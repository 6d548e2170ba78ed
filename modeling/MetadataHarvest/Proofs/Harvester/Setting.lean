import MetadataHarvest.Harvester
import MetadataHarvest.Proofs.Negotiation.Course
import MetadataHarvest.Proofs.Parameters.Setting

/-!
# Parameters and negotiation in step

A harvester keeps its address and its prefix twice, as parameters and in the negotiation.
Setting a parameter changes both or neither, in whatever order parameters are set and
whatever the repository answers, so that a harvester always asks for the records which its
transformer was bound for.
-/

namespace MetadataHarvest

namespace Harvester

open Parameters

variable {catalog : Catalog} {r : Repository} {h : Harvester} {before : List String}

theorem setPlain_of_keptValue {key : ParameterKey} {value : String} {kept : Option String}
    (hkept : keptValue key value = .ok kept) :
    h.setPlain key value = (.ok (), { h with parameters := h.parameters.put kept key }) := by
  simp only [setPlain, set_of_keptValue hkept]

theorem setPlain_of_keptValue_error {key : ParameterKey} {value : String}
    {cause : ConfigurationError} (hkept : keptValue key value = .error cause) :
    h.setPlain key value = (.error cause, h) := by
  simp only [setPlain, set_of_keptValue_error hkept]

/-- A prefix that binds a transformer may be kept. -/
theorem keptValue_of_bindTransformer {formats : AdvertisedFormats} {value : String}
    {t : Transformer} (hbind : bindTransformer catalog formats (some value) = .ok t) :
    keptValue .metadataPrefix value = .ok (some (Text.trimmed value)) := by
  rw [keptValue_metadataPrefix, nonBlank?_of_bindTransformer hbind]

/-- A prefix that binds a transformer becomes the prefix of parameters and negotiation. -/
theorem setPrefix_of_bind {value : String} {t : Transformer}
    (hbind : bindTransformer h.catalog h.negotiation.formats (some value) = .ok t) :
    h.setPrefix value =
      (.ok (), { h with
        parameters := h.parameters.put (some (Text.trimmed value)) .metadataPrefix
        negotiation := { h.negotiation with
          metadataPrefix := some (Text.trimmed value)
          transformer := some t } }) := by
  have hkept := keptValue_of_bindTransformer hbind
  rw [← bindTransformer_trimmed] at hbind
  unfold setPrefix
  rw [Negotiation.setPrefix_of_bind hbind, Text.trimmed_trimmed]
  dsimp only
  rw [setPlain_of_keptValue hkept]

/-- Any other prefix is refused and changes neither. -/
theorem setPrefix_of_bind_error {value : String} {cause : ConfigurationError}
    (hbind : bindTransformer h.catalog h.negotiation.formats (some value) = .error cause) :
    h.setPrefix value = (.error cause, h) := by
  rw [← bindTransformer_trimmed] at hbind
  unfold setPrefix
  rw [Negotiation.setPrefix_of_bind_error hbind]

theorem run_setHost_error {value : String} {cause : ConfigurationError}
    (hkept : keptValue .hostUrl value = .error cause) :
    (h.setHost r value).run before = ((.error cause, h), before) := by
  simp only [setHost, set_of_keptValue_error hkept]
  rfl

/-- The address that is already there is not negotiated again. -/
theorem run_setHost_same {value : String}
    (hkept : keptValue .hostUrl value = .ok h.parameters.hostUrl) :
    (h.setHost r value).run before = ((.ok (), h), before) := by
  have hput : h.parameters.put h.parameters.hostUrl .hostUrl = h.parameters :=
    put_get? h.parameters .hostUrl
  simp only [setHost, set_of_keptValue hkept, get?, bne_self_eq_false, hput]
  rfl

/-- Another address is taken with the formats that are advertised there. -/
theorem run_setHost_other {value : String} {kept : Option String}
    (hkept : keptValue .hostUrl value = .ok kept) (hne : h.parameters.hostUrl ≠ kept) :
    (h.setHost r value).run before =
      ((.ok (), { h with
        parameters := h.parameters.put kept .hostUrl
        negotiation := h.negotiation.moveTo h.catalog (kept.getD "")
          ((r.formats (kept.getD "")).run before).1 }),
        before ++ Repository.formatRequests (kept.getD "")) := by
  have hchanged : (h.parameters.get? .hostUrl != kept) = true := bne_iff_ne.mpr hne
  have hrun := Negotiation.run_perform_setHost h.negotiation h.catalog r (kept.getD "") before
  simp only [Negotiation.perform] at hrun
  simp only [setHost, set_of_keptValue hkept, hchanged, StateT.run_bind, put, hrun]
  rfl

theorem run_setParameter_plain {key : ParameterKey} (hhost : key ≠ .hostUrl)
    (hformat : key ≠ .metadataPrefix) (value : String) :
    (h.setParameter r key value).run before = (h.setPlain key value, before) := by
  cases key with
  | hostUrl => exact absurd rfl hhost
  | metadataPrefix => exact absurd rfl hformat
  | «from» => rfl
  | «until» => rfl
  | logoUrl => rfl

theorem run_setParameter_metadataPrefix (value : String) :
    (h.setParameter r .metadataPrefix value).run before = (h.setPrefix value, before) := rfl

theorem run_setParameter_hostUrl (value : String) :
    (h.setParameter r .hostUrl value).run before = (h.setHost r value).run before := rfl

/-- What setting a parameter may come to: the result of the call and the requests made then. -/
inductive Outcome (h : Harvester) (r : Repository) (before : List String) (value : String) :
    ParameterKey → (Except ConfigurationError Unit × Harvester) × List String → Prop
  | refused {key : ParameterKey} (cause : ConfigurationError) :
      Outcome h r before value key ((.error cause, h), before)
  | plain {key : ParameterKey} {kept : Option String} (hhost : key ≠ .hostUrl)
      (hformat : key ≠ .metadataPrefix) (hkept : keptValue key value = .ok kept) :
      Outcome h r before value key
        ((.ok (), { h with parameters := h.parameters.put kept key }), before)
  | bound {t : Transformer}
      (hbind : bindTransformer h.catalog h.negotiation.formats (some value) = .ok t) :
      Outcome h r before value .metadataPrefix
        ((.ok (), { h with
          parameters := h.parameters.put (some (Text.trimmed value)) .metadataPrefix
          negotiation := { h.negotiation with
            metadataPrefix := some (Text.trimmed value)
            transformer := some t } }), before)
  | same (hkept : keptValue .hostUrl value = .ok h.parameters.hostUrl) :
      Outcome h r before value .hostUrl ((.ok (), h), before)
  | moved {kept : Option String} (hkept : keptValue .hostUrl value = .ok kept) :
      Outcome h r before value .hostUrl
        ((.ok (), { h with
          parameters := h.parameters.put kept .hostUrl
          negotiation := h.negotiation.moveTo h.catalog (kept.getD "")
            ((r.formats (kept.getD "")).run before).1 }),
          before ++ Repository.formatRequests (kept.getD ""))

theorem outcome_setPlain {key : ParameterKey} (value : String) (hhost : key ≠ .hostUrl)
    (hformat : key ≠ .metadataPrefix) :
    Outcome h r before value key (h.setPlain key value, before) := by
  cases hkept : keptValue key value with
  | error cause =>
      rw [setPlain_of_keptValue_error hkept]
      exact .refused cause
  | ok kept =>
      rw [setPlain_of_keptValue hkept]
      exact .plain hhost hformat hkept

theorem outcome_setPrefix (value : String) :
    Outcome h r before value .metadataPrefix (h.setPrefix value, before) := by
  cases hbind : bindTransformer h.catalog h.negotiation.formats (some value) with
  | error cause =>
      rw [setPrefix_of_bind_error hbind]
      exact .refused cause
  | ok t =>
      rw [setPrefix_of_bind hbind]
      exact .bound hbind

theorem outcome_setHost (value : String) :
    Outcome h r before value .hostUrl ((h.setHost r value).run before) := by
  cases hkept : keptValue .hostUrl value with
  | error cause =>
      rw [run_setHost_error hkept]
      exact .refused cause
  | ok kept =>
      by_cases hsame : h.parameters.hostUrl = kept
      · subst hsame
        rw [run_setHost_same hkept]
        exact .same hkept
      · rw [run_setHost_other hkept hsame]
        exact .moved hkept

/-- Setting a parameter comes to nothing else. -/
theorem outcome_setParameter (h : Harvester) (r : Repository) (key : ParameterKey)
    (value : String) (before : List String) :
    Outcome h r before value key ((h.setParameter r key value).run before) := by
  by_cases hhost : key = .hostUrl
  · subst hhost
    rw [run_setParameter_hostUrl]
    exact outcome_setHost value
  · by_cases hformat : key = .metadataPrefix
    · subst hformat
      rw [run_setParameter_metadataPrefix]
      exact outcome_setPrefix value
    · rw [run_setParameter_plain hhost hformat]
      exact outcome_setPlain value hhost hformat

variable {key : ParameterKey} {value : String}
  {result : (Except ConfigurationError Unit × Harvester) × List String}

/-- A parameter that is refused leaves the harvester as it is, without a request. -/
theorem Outcome.of_error (outcome : Outcome h r before value key result)
    {cause : ConfigurationError} (herror : result.1.1 = .error cause) :
    result = ((.error cause, h), before) := by
  cases outcome with
  | refused cause' => rw [Except.error.inj herror]
  | plain _ _ _ => cases herror
  | bound _ => cases herror
  | same _ => cases herror
  | moved _ => cases herror

/-- A parameter that is accepted has the value without its outer blanks, or none when that
leaves nothing, and no other parameter changes. -/
theorem Outcome.of_ok (outcome : Outcome h r before value key result)
    (hok : result.1.1 = .ok ()) :
    result.1.2.parameters = h.parameters.put (Text.nonBlank? value) key := by
  cases outcome with
  | refused _ => cases hok
  | plain _ _ hkept => rw [eq_nonBlank?_of_keptValue hkept]
  | bound hbind => rw [nonBlank?_of_bindTransformer hbind]
  | same hkept =>
      rw [← eq_nonBlank?_of_keptValue hkept]
      exact (put_get? h.parameters .hostUrl).symm
  | moved hkept => rw [eq_nonBlank?_of_keptValue hkept]

/-- What is the same in parameters and negotiation, and what the negotiation rests on: the
formats are those that were advertised when they were asked for, some requests ago. -/
structure InStep (catalog : Catalog) (r : Repository) (h : Harvester) (requests : List String) :
    Prop where
  sameCatalog : h.catalog = catalog
  metadataPrefix : h.parameters.metadataPrefix = h.negotiation.metadataPrefix
  hostUrl : h.parameters.hostUrl.getD "" = h.negotiation.hostUrl.getD ""
  kept : h.parameters.Kept
  formats : ∃ asked,
    asked ++ Repository.formatRequests (h.negotiation.hostUrl.getD "") <+: requests ∧
      h.negotiation.formats = ((r.formats (h.negotiation.hostUrl.getD "")).run asked).1
  transformer : h.negotiation.transformer =
    (bindTransformer catalog h.negotiation.formats h.negotiation.metadataPrefix).toOption

theorem inStep_initial (catalog : Catalog) (r : Repository) (before : List String) :
    InStep catalog r (initial catalog) before where
  sameCatalog := rfl
  metadataPrefix := rfl
  hostUrl := rfl
  kept := kept_empty
  formats := by
    have hblank : Text.nonBlank? ((initial catalog).negotiation.hostUrl.getD "") = none :=
      Text.nonBlank?_empty
    refine ⟨before, ?_, (Repository.formats_of_blank hblank r before).symm⟩
    simp only [Repository.formatRequests_of_blank hblank, List.append_nil, List.prefix_rfl]
  transformer := rfl

/-- Other requests change neither. -/
theorem InStep.request (hs : InStep catalog r h before) (more : List String) :
    InStep catalog r h (before ++ more) where
  sameCatalog := hs.sameCatalog
  metadataPrefix := hs.metadataPrefix
  hostUrl := hs.hostUrl
  kept := hs.kept
  formats := by
    obtain ⟨asked, hasked, hformats⟩ := hs.formats
    exact ⟨asked, hasked.trans (List.prefix_append before more), hformats⟩
  transformer := hs.transformer

/-- Whatever setting a parameter comes to, parameters and negotiation stay in step. -/
theorem InStep.of_outcome (hs : InStep catalog r h before)
    (outcome : Outcome h r before value key result) : InStep catalog r result.1.2 result.2 := by
  cases outcome with
  | refused cause => exact hs
  | @plain _ kept hhost hformat hkept =>
      have hhost' := get?_put_of_ne hhost.symm h.parameters kept
      have hformat' := get?_put_of_ne hformat.symm h.parameters kept
      constructor
      · exact hs.sameCatalog
      · exact Eq.trans hformat' hs.metadataPrefix
      · rw [← hs.hostUrl]
        exact congrArg (·.getD "") hhost'
      · exact hs.kept.put hkept
      · exact hs.formats
      · exact hs.transformer
  | bound hbind =>
      have hkept := keptValue_of_bindTransformer hbind
      rw [hs.sameCatalog, ← bindTransformer_trimmed] at hbind
      constructor
      · exact hs.sameCatalog
      · rfl
      · exact hs.hostUrl
      · exact hs.kept.put hkept
      · exact hs.formats
      · rw [hbind]
        rfl
  | same hkept => exact hs
  | moved hkept =>
      constructor
      · exact hs.sameCatalog
      · exact hs.metadataPrefix
      · rfl
      · exact hs.kept.put hkept
      · refine ⟨before, List.prefix_rfl, ?_⟩
        rw [Negotiation.formats_moveTo, Negotiation.hostUrl_moveTo, Option.getD_some]
      · rw [Negotiation.transformer_moveTo, Negotiation.formats_moveTo,
          Negotiation.metadataPrefix_moveTo, hs.sameCatalog]

/-- Setting parameters together keeps both in step as well. -/
theorem InStep.setAll {p : Parameters} {h' : Harvester} {keys : List ParameterKey} :
    ∀ {h : Harvester} {before after : List String}, InStep catalog r h before →
      (setAll r p keys h).run before = (.ok h', after) → InStep catalog r h' after := by
  induction keys with
  | nil =>
      intro h before after hs hrun
      cases hrun
      exact hs
  | cons key keys ih =>
      intro h before after hs hrun
      unfold Harvester.setAll at hrun
      cases hget : p.get? key with
      | none =>
          rw [hget] at hrun
          exact ih hs hrun
      | some value =>
          have hset := hs.of_outcome (outcome_setParameter h r key value before)
          simp only [hget, StateT.run_bind] at hrun
          generalize (h.setParameter r key value).run before = result at hset hrun
          obtain ⟨⟨outcome, next⟩, between⟩ := result
          cases outcome with
          | error cause => cases hrun
          | ok _ => exact ih hset hrun

/-- A bound transformer is the one that the prefix binds among the formats of the address,
and these are the prefix and the address which the parameters name. -/
theorem InStep.bound (hs : InStep catalog r h before) {t : Transformer}
    (ht : h.negotiation.transformer = some t) :
    ∃ host name asked,
      h.parameters.hostUrl = some host ∧ h.negotiation.hostUrl = some host ∧
      h.parameters.metadataPrefix = some name ∧ h.negotiation.metadataPrefix = some name ∧
      Text.nonBlank? host = some host ∧ Text.nonBlank? name = some name ∧
      asked ++ Repository.formatRequests host <+: before ∧
      bindTransformer catalog ((r.formats host).run asked).1 (some name) = .ok t := by
  obtain ⟨asked, hasked, hformats⟩ := hs.formats
  have hbind : bindTransformer catalog h.negotiation.formats h.negotiation.metadataPrefix =
      .ok t := by
    have htransformer := hs.transformer
    rw [ht] at htransformer
    rw [bindTransformer_eq_ok_iff, ← bindTransformer_toOption_eq_some_iff, ← htransformer]
  obtain ⟨name, hname⟩ : ∃ name, h.negotiation.metadataPrefix = some name := by
    cases hnegotiation : h.negotiation.metadataPrefix with
    | none =>
        rw [hnegotiation, bindTransformer_none] at hbind
        cases hbind
    | some name => exact ⟨name, rfl⟩
  have hname' := hs.metadataPrefix.trans hname
  -- At a blank address no format would be known, and nothing would have been bound.
  obtain ⟨host, hhost⟩ : ∃ host, h.parameters.hostUrl = some host := by
    cases hparameter : h.parameters.hostUrl with
    | none =>
        have hempty := hs.hostUrl
        rw [hparameter, Option.getD_none] at hempty
        rw [hformats, ← hempty, Repository.formats_of_blank Text.nonBlank?_empty] at hbind
        exact absurd hbind (bindTransformer_empty_ne_ok _ _ _)
    | some host => exact ⟨host, rfl⟩
  obtain ⟨hhostTrimmed, hhostNe, -⟩ := hs.kept.isTrimmed .hostUrl hhost
  obtain ⟨hnameTrimmed, hnameNe, -⟩ := hs.kept.isTrimmed .metadataPrefix hname'
  have hhost' : h.negotiation.hostUrl = some host := by
    have hsame := hs.hostUrl
    rw [hhost, Option.getD_some] at hsame
    cases hnegotiation : h.negotiation.hostUrl with
    | none =>
        rw [hnegotiation, Option.getD_none] at hsame
        exact absurd hsame hhostNe
    | some host' =>
        rw [hnegotiation, Option.getD_some] at hsame
        rw [hsame]
  rw [hhost', Option.getD_some] at hasked hformats
  rw [hformats, hname] at hbind
  exact ⟨host, name, asked, hhost, hhost', hname', hname,
    Text.nonBlank?_eq_some_iff.mpr ⟨hhostTrimmed, hhostNe⟩,
    Text.nonBlank?_eq_some_iff.mpr ⟨hnameTrimmed, hnameNe⟩, hasked, hbind⟩

end Harvester

end MetadataHarvest
