import MetadataHarvest.Proofs.Harvester.Setting
import MetadataHarvest.Proofs.Parameters.Validity
import MetadataHarvest.Proofs.Protocol.Request

/-!
# Making a harvester with parameters

The parameters of a new harvester are set in an order of their own: the logo and the address may be
refused for what they are, and the prefix is tried last, against the formats that are advertised at
the address. The first refusal ends it, and nothing is requested before the address was accepted.
-/

namespace MetadataHarvest

open Protocol

/-- The formats that are known at an address after these requests, or none without an address. -/
def Repository.formatsAt (r : Repository) (before : List String) :
    Option String → AdvertisedFormats
  | none => .empty
  | some host => ((r.formats host).run before).1

/-- The requests that tell which formats are known at an address. -/
def Protocol.requestsFor (host : Option String) : List String :=
  host.toList.map fun host => Request.listMetadataFormats.url host

namespace Harvester

open Parameters

variable {catalog : Catalog} {r : Repository} {p : Parameters} {h next : Harvester}
  {key : ParameterKey} {keys : List ParameterKey} {value : String} {cause : ConfigurationError}
  {before between after : List String}

/-- Why a harvester with these parameters is not made, and all requests made by then. -/
inductive Refusal (catalog : Catalog) (r : Repository) (p : Parameters) (before : List String) :
    ConfigurationError → List String → Prop
  | logo {value : String} {fault : Url.Fault} (hvalue : p.tidy? .logoUrl = some value)
      (hfault : Url.Address.read value = .error fault) :
      Refusal catalog r p before (.invalidAddress .logoUrl value fault) before
  | host {value : String} {fault : Url.Fault} (hlogo : p.HoldsAddress .logoUrl)
      (hvalue : p.tidy? .hostUrl = some value) (hfault : Url.Address.read value = .error fault) :
      Refusal catalog r p before (.invalidAddress .hostUrl value fault) before
  | metadataPrefix {name : String} {cause : ConfigurationError} (hlogo : p.HoldsAddress .logoUrl)
      (hhost : p.HoldsAddress .hostUrl) (hname : p.metadataPrefix = some name)
      (hbind : bindTransformer catalog (r.formatsAt before (p.tidy? .hostUrl))
        (some (Text.trimmed name)) = .error cause) :
      Refusal catalog r p before cause (before ++ requestsFor (p.tidy? .hostUrl))

section Steps

theorem run_setAll_of_none (hget : p.get? key = none) :
    (setAll r p (key :: keys) h).run before = (setAll r p keys h).run before := by
  rw [setAll, hget]

theorem run_setAll_of_ok (hget : p.get? key = some value)
    (hset : (h.setParameter r key value).run before = ((.ok (), next), between)) :
    (setAll r p (key :: keys) h).run before = (setAll r p keys next).run between := by
  simp only [setAll, hget, StateT.run_bind, hset]
  rfl

theorem run_setAll_of_error (hget : p.get? key = some value)
    (hset : (h.setParameter r key value).run before = ((.error cause, next), between)) :
    (setAll r p (key :: keys) h).run before = (.error cause, between) := by
  simp only [setAll, hget, StateT.run_bind, hset]
  rfl

/-- A parameter that was not set and has nothing to do with the negotiation gets what is kept of
its value. -/
theorem run_setAll_plain (hhost : key ≠ .hostUrl) (hformat : key ≠ .metadataPrefix)
    (hunset : h.parameters.get? key = none) {kept : Option String}
    (hkept : p.keptEntry key = .ok kept) :
    (setAll r p (key :: keys) h).run before =
      (setAll r p keys { h with parameters := h.parameters.put kept key }).run before := by
  rw [keptEntry] at hkept
  cases hget : p.get? key with
  | none =>
      rw [hget] at hkept
      obtain rfl := Except.ok.inj hkept
      rw [run_setAll_of_none hget, ← hunset, put_get?]
  | some value =>
      rw [hget] at hkept
      apply run_setAll_of_ok hget
      rw [run_setParameter_plain hhost hformat, setPlain_of_keptValue hkept]

/-- A harvester that had no address, with this one and the formats that are known there. -/
def arriveAt (h : Harvester) (r : Repository) (before : List String) : Option String → Harvester
  | none => h
  | some host => { h with
      parameters := h.parameters.put (some host) .hostUrl
      negotiation := h.negotiation.moveTo h.catalog host (r.formatsAt before (some host)) }

theorem formatRequests_eq {host : String} (h : Text.nonBlank? host = some host) :
    Repository.formatRequests host = requestsFor (some host) := by
  obtain ⟨htrimmed, hne⟩ := Text.nonBlank?_eq_some_iff.mp h
  rw [← htrimmed] at hne
  rw [Repository.formatRequests, requestUrl_of_shown hne, htrimmed]
  rfl

/-- With an address the formats there are asked for, and nothing else is. -/
theorem run_setAll_hostUrl (hunset : h.parameters.hostUrl = none) {host : Option String}
    (hkept : p.keptEntry .hostUrl = .ok host) :
    (setAll r p (.hostUrl :: keys) h).run before =
      (setAll r p keys (h.arriveAt r before host)).run (before ++ requestsFor host) := by
  rw [keptEntry] at hkept
  cases hget : p.get? .hostUrl with
  | none =>
      rw [hget] at hkept
      obtain rfl := Except.ok.inj hkept
      rw [run_setAll_of_none hget, requestsFor, Option.toList_none, List.map_nil, List.append_nil]
      rfl
  | some value =>
      rw [hget] at hkept
      apply run_setAll_of_ok hget
      rw [run_setParameter_hostUrl]
      cases host with
      | none =>
          rw [← hunset] at hkept
          rw [run_setHost_same hkept, requestsFor, Option.toList_none, List.map_nil,
            List.append_nil]
          rfl
      | some host =>
          have hne : h.parameters.hostUrl ≠ some host := by simp [hunset]
          have hhost := Text.nonBlank?_of_nonBlank? (keptValue_eq_some_iff.mp hkept).1
          rw [run_setHost_other hkept hne, Option.getD_some, formatRequests_eq hhost]
          rfl

theorem run_setAll_prefix_of_none (hget : p.get? .metadataPrefix = none) :
    (setAll r p [.metadataPrefix] h).run before = (.ok h, before) := by
  rw [run_setAll_of_none hget]
  rfl

theorem run_setAll_prefix_of_bind {name : String} {t : Transformer}
    (hget : p.get? .metadataPrefix = some name)
    (hbind : bindTransformer h.catalog h.negotiation.formats (some name) = .ok t) :
    (setAll r p [.metadataPrefix] h).run before =
      (.ok { h with
        parameters := h.parameters.put (some (Text.trimmed name)) .metadataPrefix
        negotiation := { h.negotiation with
          metadataPrefix := some (Text.trimmed name)
          transformer := some t } }, before) := by
  have hset : (h.setParameter r .metadataPrefix name).run before = _ :=
    run_setParameter_metadataPrefix name
  rw [setPrefix_of_bind hbind] at hset
  rw [run_setAll_of_ok hget hset]
  rfl

theorem run_setAll_prefix_of_bind_error {name : String} (hget : p.get? .metadataPrefix = some name)
    (hbind : bindTransformer h.catalog h.negotiation.formats (some name) = .error cause) :
    (setAll r p [.metadataPrefix] h).run before = (.error cause, before) := by
  have hset : (h.setParameter r .metadataPrefix name).run before = _ :=
    run_setParameter_metadataPrefix name
  rw [setPrefix_of_bind_error hbind] at hset
  exact run_setAll_of_error hget hset

end Steps

section Order

/-- A new harvester with everything but its address and its prefix. -/
def placeless (catalog : Catalog) (p : Parameters) : Harvester where
  catalog
  parameters :=
    { since := p.tidy? .from
      upTo := p.tidy? .until
      logoUrl := p.tidy? .logoUrl }
  negotiation := .initial

/-- A new harvester with everything but its prefix. -/
def prepared (catalog : Catalog) (r : Repository) (p : Parameters) (before : List String) :
    Harvester :=
  (placeless catalog p).arriveAt r before (p.tidy? .hostUrl)

theorem run_ofParameters_bounds (catalog : Catalog) (r : Repository) (p : Parameters)
    (before : List String) :
    (ofParameters catalog r p).run before =
      (setAll r p [.logoUrl, .hostUrl, .metadataPrefix]
        ⟨catalog, { since := p.tidy? .from, upTo := p.tidy? .until }, .initial⟩).run before := by
  rw [ofParameters, settingOrder,
    run_setAll_plain (by decide) (by decide) rfl (keptEntry_of_not_isAddress rfl),
    run_setAll_plain (by decide) (by decide) rfl (keptEntry_of_not_isAddress rfl)]
  rfl

/-- A logo that is no address is refused first. -/
theorem run_ofParameters_of_logo (hlogo : p.keptEntry .logoUrl = .error cause) :
    (ofParameters catalog r p).run before = (.error cause, before) := by
  obtain ⟨value, hget, hkept⟩ := keptEntry_eq_error hlogo
  rw [run_ofParameters_bounds]
  apply run_setAll_of_error hget
  rw [run_setParameter_plain (by decide) (by decide), setPlain_of_keptValue_error hkept]

theorem run_ofParameters_logo (hlogo : p.HoldsAddress .logoUrl) :
    (ofParameters catalog r p).run before =
      (setAll r p [.hostUrl, .metadataPrefix] (placeless catalog p)).run before := by
  rw [run_ofParameters_bounds,
    run_setAll_plain (by decide) (by decide) rfl ((keptEntry_eq_ok_iff rfl).mpr hlogo)]
  rfl

/-- Then an address that is none, and nothing was requested by then. -/
theorem run_ofParameters_of_host (hlogo : p.HoldsAddress .logoUrl)
    (hhost : p.keptEntry .hostUrl = .error cause) :
    (ofParameters catalog r p).run before = (.error cause, before) := by
  obtain ⟨value, hget, hkept⟩ := keptEntry_eq_error hhost
  rw [run_ofParameters_logo hlogo]
  apply run_setAll_of_error hget
  rw [run_setParameter_hostUrl, run_setHost_error hkept]

/-- What is left is to try the prefix. -/
theorem run_ofParameters_prepared (hlogo : p.HoldsAddress .logoUrl)
    (hhost : p.HoldsAddress .hostUrl) :
    (ofParameters catalog r p).run before =
      (setAll r p [.metadataPrefix] (prepared catalog r p before)).run
        (before ++ requestsFor (p.tidy? .hostUrl)) := by
  rw [run_ofParameters_logo hlogo,
    run_setAll_hostUrl rfl ((keptEntry_eq_ok_iff rfl).mpr hhost)]
  rfl

theorem catalog_prepared (catalog : Catalog) (r : Repository) (p : Parameters)
    (before : List String) : (prepared catalog r p before).catalog = catalog := by
  rw [prepared]
  cases p.tidy? .hostUrl <;> rfl

theorem formats_prepared (catalog : Catalog) (r : Repository) (p : Parameters)
    (before : List String) :
    (prepared catalog r p before).negotiation.formats =
      r.formatsAt before (p.tidy? .hostUrl) := by
  rw [prepared]
  cases p.tidy? .hostUrl <;> rfl

theorem get?_prepared (hkey : key ≠ .metadataPrefix) :
    (prepared catalog r p before).parameters.get? key = p.tidy? key := by
  rw [prepared]
  cases key with
  | metadataPrefix => exact absurd rfl hkey
  | «from» => cases p.tidy? .hostUrl <;> rfl
  | «until» => cases p.tidy? .hostUrl <;> rfl
  | hostUrl => cases p.tidy? .hostUrl <;> rfl
  | logoUrl => cases p.tidy? .hostUrl <;> rfl

end Order

section Outcome

theorem bind_prepared {name : String} {bound : Except ConfigurationError Transformer} :
    bindTransformer (prepared catalog r p before).catalog
        (prepared catalog r p before).negotiation.formats (some name) = bound ↔
      bindTransformer catalog (r.formatsAt before (p.tidy? .hostUrl))
        (some (Text.trimmed name)) = bound := by
  rw [catalog_prepared, formats_prepared, bindTransformer_trimmed]

theorem Refusal.run_eq (refusal : Refusal catalog r p before cause after) :
    (ofParameters catalog r p).run before = (.error cause, after) := by
  cases refusal with
  | logo hvalue hfault =>
      exact run_ofParameters_of_logo
        ((keptEntry_eq_error_iff rfl).mpr ⟨_, _, hvalue, hfault, rfl⟩)
  | host hlogo hvalue hfault =>
      exact run_ofParameters_of_host hlogo
        ((keptEntry_eq_error_iff rfl).mpr ⟨_, _, hvalue, hfault, rfl⟩)
  | metadataPrefix hlogo hhost hname hbind =>
      rw [run_ofParameters_prepared hlogo hhost]
      exact run_setAll_prefix_of_bind_error hname (bind_prepared.mpr hbind)

/-- A harvester that is made has the parameters without their outer blanks, and knows the formats
at its address. -/
theorem exists_made (hlogo : p.HoldsAddress .logoUrl) (hhost : p.HoldsAddress .hostUrl)
    (hbinds : ∀ name, p.metadataPrefix = some name →
      ∃ t, bindTransformer catalog (r.formatsAt before (p.tidy? .hostUrl))
        (some (Text.trimmed name)) = .ok t) :
    ∃ h : Harvester, (∀ key, h.parameters.get? key = p.tidy? key) ∧
      h.negotiation.formats = r.formatsAt before (p.tidy? .hostUrl) ∧
      (ofParameters catalog r p).run before =
        (.ok h, before ++ requestsFor (p.tidy? .hostUrl)) := by
  rw [run_ofParameters_prepared hlogo hhost]
  have hformats := formats_prepared catalog r p before
  cases hname : p.metadataPrefix with
  | none =>
      have hget : p.get? .metadataPrefix = none := hname
      refine ⟨prepared catalog r p before, fun key => ?_, hformats,
        run_setAll_prefix_of_none hget⟩
      by_cases hkey : key = .metadataPrefix
      · subst hkey
        rw [tidy?, hget, Option.bind_none, prepared]
        cases p.tidy? .hostUrl <;> rfl
      · exact get?_prepared hkey
  | some name =>
      have hget : p.get? .metadataPrefix = some name := hname
      obtain ⟨t, hbind⟩ := hbinds name hname
      refine ⟨_, fun key => ?_, ?_, run_setAll_prefix_of_bind hget (bind_prepared.mpr hbind)⟩
      · by_cases hkey : key = .metadataPrefix
        · subst hkey
          rw [bindTransformer_trimmed] at hbind
          rw [get?_put_self, tidy?, hget, Option.bind_some, nonBlank?_of_bindTransformer hbind]
        · rw [get?_put_of_ne hkey, get?_prepared hkey]
      · exact hformats

/-- Parameters that are not refused make a harvester. -/
theorem refusal_or_binds (catalog : Catalog) (r : Repository) (p : Parameters)
    (before : List String) :
    (∃ cause after, Refusal catalog r p before cause after) ∨
      p.HoldsAddress .logoUrl ∧ p.HoldsAddress .hostUrl ∧ ∀ name, p.metadataPrefix = some name →
        ∃ t, bindTransformer catalog (r.formatsAt before (p.tidy? .hostUrl))
          (some (Text.trimmed name)) = .ok t := by
  by_cases hlogo : p.HoldsAddress .logoUrl
  case neg =>
    obtain ⟨value, fault, hvalue, hfault⟩ := exists_fault_of_not_holdsAddress hlogo
    exact .inl ⟨_, _, .logo hvalue hfault⟩
  by_cases hhost : p.HoldsAddress .hostUrl
  case neg =>
    obtain ⟨value, fault, hvalue, hfault⟩ := exists_fault_of_not_holdsAddress hhost
    exact .inl ⟨_, _, .host hlogo hvalue hfault⟩
  cases hname : p.metadataPrefix with
  | none => exact .inr ⟨hlogo, hhost, nofun⟩
  | some name =>
      cases hbind : bindTransformer catalog (r.formatsAt before (p.tidy? .hostUrl))
          (some (Text.trimmed name)) with
      | error cause => exact .inl ⟨_, _, .metadataPrefix hlogo hhost hname hbind⟩
      | ok t =>
          refine .inr ⟨hlogo, hhost, fun name' hname' => ?_⟩
          obtain rfl := Option.some.inj hname'
          exact ⟨t, hbind⟩

/-- A new harvester knows the formats at its address, and nothing else was requested for it. -/
theorem made_eq (made : (ofParameters catalog r p).run before = (.ok h, after)) :
    h.parameters.hostUrl = p.tidy? .hostUrl ∧
      h.negotiation.formats = r.formatsAt before (p.tidy? .hostUrl) ∧
      after = before ++ requestsFor (p.tidy? .hostUrl) := by
  obtain ⟨cause, after', refusal⟩ | ⟨hlogo, hhost, hbinds⟩ := refusal_or_binds catalog r p before
  · rw [refusal.run_eq] at made
    cases made
  · obtain ⟨h', hparameters, hformats, hrun⟩ := exists_made hlogo hhost hbinds
    rw [hrun] at made
    cases made
    exact ⟨hparameters .hostUrl, hformats, rfl⟩

end Outcome

end Harvester

end MetadataHarvest
