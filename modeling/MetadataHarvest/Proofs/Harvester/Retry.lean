import MetadataHarvest.Proofs.Harvester.Making
import MetadataHarvest.Proofs.Harvester.Reachable

/-!
# Setting an address again

Formats are asked for when the address changes, and only then. An address at which the repository
was down is kept with no formats, and setting it again does not ask anew. It is asked for again
once another address, or none, was set in between.
-/

namespace MetadataHarvest.Harvester

open Parameters

variable {catalog : Catalog} {r : Repository} {h : Harvester} {key : ParameterKey}
  {requests before asked : List String} {value host : String}
  {result : (Except ConfigurationError Unit × Harvester) × List String}

/-- An address is not blank, so it is kept without its outer blanks. -/
theorem keptValue_of_address {address : Url.Address} (htrimmed : Text.trimmed value = host)
    (hvalid : Url.Address.read host = .ok address) :
    keptValue .hostUrl value = .ok (some host) := by
  have hempty : (Url.Address.read "").isOk = false := by decide
  have hne : host ≠ "" := by
    rintro rfl
    rw [hvalid] at hempty
    cases hempty
  exact keptValue_eq_some_iff.mpr ⟨Text.nonBlank?_eq_some_iff.mpr ⟨htrimmed, hne⟩,
    checkValue_eq_ok_iff.mpr fun _ => ⟨address, hvalid⟩⟩

/-- The address that is set already is not asked anything. -/
theorem setHost_of_eq (hkept : keptValue .hostUrl value = .ok (some host))
    (hhost : h.parameters.hostUrl = some host) (r : Repository) (before : List String) :
    (h.setParameter r .hostUrl value).run before = ((.ok (), h), before) := by
  rw [← hhost] at hkept
  rw [run_setParameter_hostUrl, run_setHost_same hkept]

/-- Another address is taken, and the formats there are asked for by one request. -/
theorem setHost_of_ne (hkept : keptValue .hostUrl value = .ok (some host))
    (hne : h.parameters.hostUrl ≠ some host) (r : Repository) (before : List String) :
    ((h.setParameter r .hostUrl value).run before).1.1 = .ok () ∧
      ((h.setParameter r .hostUrl value).run before).1.2.negotiation.formats =
        ((r.formats host).run before).1 ∧
      ((h.setParameter r .hostUrl value).run before).2 =
        before ++ Repository.formatRequests host := by
  rw [run_setParameter_hostUrl, run_setHost_other hkept hne]
  exact ⟨rfl, Negotiation.formats_moveTo _ _ _ _, rfl⟩

/-- A blank address unsets what was set, and nothing is requested. -/
theorem setHost_of_blank (hblank : Text.nonBlank? value = none) (r : Repository)
    (before : List String) :
    ∃ next, (h.setParameter r .hostUrl value).run before = ((.ok (), next), before) := by
  have hkept : keptValue .hostUrl value = .ok none := by
    simp only [keptValue, hblank]
  rw [run_setParameter_hostUrl]
  by_cases hsame : h.parameters.hostUrl = none
  · rw [← hsame] at hkept
    exact ⟨h, run_setHost_same hkept⟩
  · rw [run_setHost_other hkept hsame, Option.getD_none,
      Repository.formatRequests_of_blank Text.nonBlank?_empty, List.append_nil]
    exact ⟨_, rfl⟩

/-- When formats were last asked for on a way to a harvester: `asked` are the requests that had been
made by then. Parameters set without a request, and requests of others, leave that as it is. -/
inductive LastAsked (catalog : Catalog) (r : Repository) :
    Harvester → List String → List String → Prop
  | made {p : Parameters} {before after : List String} {h : Harvester}
      (made : (ofParameters catalog r p).run before = (.ok h, after)) (asks : after ≠ before) :
      LastAsked catalog r h after before
  | asks {h : Harvester} {before : List String} (reachable : Reachable catalog r h before)
      (key : ParameterKey) (value : String)
      (asks : ((h.setParameter r key value).run before).2 ≠ before) :
      LastAsked catalog r ((h.setParameter r key value).run before).1.2
        ((h.setParameter r key value).run before).2 before
  | keeps {h : Harvester} {before asked : List String} (last : LastAsked catalog r h before asked)
      (key : ParameterKey) (value : String)
      (keeps : ((h.setParameter r key value).run before).2 = before) :
      LastAsked catalog r ((h.setParameter r key value).run before).1.2
        ((h.setParameter r key value).run before).2 asked
  | request {h : Harvester} {before asked : List String} (last : LastAsked catalog r h before asked)
      (more : List String) : LastAsked catalog r h (before ++ more) asked

/-- For a kept address there is a request. -/
theorem formatRequests_ne_nil (hkept : keptValue .hostUrl value = .ok (some host)) :
    Repository.formatRequests host ≠ [] := by
  rw [formatRequests_eq (Text.nonBlank?_of_nonBlank? (keptValue_eq_some_iff.mp hkept).1)]
  exact List.cons_ne_nil _ _

/-- Without a request an address and its formats stay as they were. -/
theorem Outcome.of_requests_eq (outcome : Outcome h r before value key result)
    (heq : result.2 = before) (hhost : result.1.2.parameters.hostUrl = some host) :
    h.parameters.hostUrl = some host ∧
      result.1.2.negotiation.formats = h.negotiation.formats := by
  cases outcome with
  | refused cause => exact ⟨hhost, rfl⟩
  | @plain _ kept hne hformat hkept =>
      have hput := get?_put_of_ne hne.symm h.parameters kept
      exact ⟨Eq.trans hput.symm hhost, rfl⟩
  | bound hbind => exact ⟨hhost, rfl⟩
  | same hkept => exact ⟨hhost, rfl⟩
  | @moved kept hkept =>
      obtain rfl : kept = some host := hhost
      exact absurd (List.append_right_eq_self.mp heq) (formatRequests_ne_nil hkept)

/-- With a request the formats are those which are advertised at the address then. -/
theorem Outcome.of_requests_ne (outcome : Outcome h r before value key result)
    (hne : result.2 ≠ before) (hhost : result.1.2.parameters.hostUrl = some host) :
    result.1.2.negotiation.formats = ((r.formats host).run before).1 ∧
      result.2 = before ++ Repository.formatRequests host := by
  cases outcome with
  | refused cause => exact absurd rfl hne
  | plain hne' hformat hkept => exact absurd rfl hne
  | bound hbind => exact absurd rfl hne
  | same hkept => exact absurd rfl hne
  | @moved kept hkept =>
      obtain rfl : kept = some host := hhost
      exact ⟨Negotiation.formats_moveTo _ _ _ _, rfl⟩

/-- A new harvester with an address has asked for the formats there. -/
theorem made_hostUrl {p : Parameters} {after : List String}
    (made : (ofParameters catalog r p).run before = (.ok h, after))
    (hhost : h.parameters.hostUrl = some host) :
    h.negotiation.formats = ((r.formats host).run before).1 ∧
      after = before ++ Repository.formatRequests host ∧ after ≠ before := by
  obtain ⟨hhost', hformats, hafter⟩ := made_eq made
  rw [← hhost', hhost] at hformats hafter
  have hblank : Text.nonBlank? host = some host :=
    Text.nonBlank?_of_nonBlank? (Option.bind_eq_some_iff.mp (hhost'.symm.trans hhost)).choose_spec.2
  have hne : after ≠ before := by
    rw [hafter]
    exact fun heq => List.cons_ne_nil _ _ (List.append_right_eq_self.mp heq)
  exact ⟨hformats, by rw [hafter, formatRequests_eq hblank], hne⟩

/-- The formats at the address that is set are those of the moment at which formats were last
asked for. -/
theorem LastAsked.formats_of_hostUrl (last : LastAsked catalog r h requests asked)
    (hhost : h.parameters.hostUrl = some host) :
    asked ++ Repository.formatRequests host <+: requests ∧
      h.negotiation.formats = ((r.formats host).run asked).1 := by
  induction last with
  | made made asks =>
      obtain ⟨hformats, hafter, -⟩ := made_hostUrl made hhost
      exact ⟨hafter ▸ List.prefix_rfl, hformats⟩
  | @asks h before reachable key value asks =>
      obtain ⟨hformats, hafter⟩ :=
        (outcome_setParameter h r key value before).of_requests_ne asks hhost
      exact ⟨hafter ▸ List.prefix_rfl, hformats⟩
  | @keeps h before asked last key value keeps ih =>
      obtain ⟨hhost', hformats⟩ :=
        (outcome_setParameter h r key value before).of_requests_eq keeps hhost
      rw [keeps, hformats]
      exact ih hhost'
  | request last more ih =>
      obtain ⟨hasked, hformats⟩ := ih hhost
      exact ⟨hasked.trans (List.prefix_append _ more), hformats⟩

/-- On every way to a harvester with an address, formats were asked for. -/
theorem Reachable.exists_lastAsked (reachable : Reachable catalog r h requests)
    (hhost : h.parameters.hostUrl = some host) : ∃ asked, LastAsked catalog r h requests asked := by
  induction reachable with
  | initial before => cases hhost
  | ofParameters made =>
      obtain ⟨-, -, hne⟩ := made_hostUrl made hhost
      exact ⟨_, .made made hne⟩
  | @setParameter h before reachable key value ih =>
      by_cases heq : ((h.setParameter r key value).run before).2 = before
      · obtain ⟨hhost', -⟩ :=
          (outcome_setParameter h r key value before).of_requests_eq heq hhost
        obtain ⟨asked, last⟩ := ih hhost'
        exact ⟨asked, .keeps last key value heq⟩
      · exact ⟨before, .asks reachable key value heq⟩
  | request _ more ih =>
      obtain ⟨asked, last⟩ := ih hhost
      exact ⟨asked, .request last more⟩

/-- Any address is taken. When it is another one than before, the formats are those advertised
there now. When it is the same, nothing is requested and nothing changes: the formats are still
those of the moment at which they were last asked for. They are asked for again when another
address was taken in between, or a blank one, which is always taken and for which nothing is
requested. -/
theorem formats_setHost (reachable : Reachable catalog r h requests) {address : Url.Address}
    (htrimmed : Text.trimmed value = host) (hvalid : Url.Address.read host = .ok address)
    (now : Repository) (before : List String) :
    ((h.setParameter now .hostUrl value).run before).1.1 = .ok () ∧
    (h.parameters.hostUrl ≠ some host →
      ((h.setParameter now .hostUrl value).run before).1.2.negotiation.formats =
        ((now.formats host).run before).1 ∧
      ((h.setParameter now .hostUrl value).run before).2 =
        before ++ Repository.formatRequests host) ∧
    (h.parameters.hostUrl = some host →
      (h.setParameter now .hostUrl value).run before = ((.ok (), h), before) ∧
      (∃ asked, LastAsked catalog r h requests asked) ∧
      ∀ asked, LastAsked catalog r h requests asked →
        asked ++ Repository.formatRequests host <+: requests ∧
          h.negotiation.formats = ((r.formats host).run asked).1) ∧
    (∀ (between : Repository) (blank : String) (earlier : List String),
      Text.nonBlank? blank = none →
        ∃ next, (h.setParameter between .hostUrl blank).run earlier = ((.ok (), next), earlier)) ∧
    ∀ (between : Repository) (other : String) (earlier later : List String) (next : Harvester),
      (h.setParameter between .hostUrl other).run earlier = ((.ok (), next), later) →
      Text.nonBlank? other ≠ some host →
        ((next.setParameter now .hostUrl value).run before).1.2.negotiation.formats =
          ((now.formats host).run before).1 := by
  have hkept := keptValue_of_address htrimmed hvalid
  refine ⟨?_, ?_, ?_, ?_, ?_⟩
  · by_cases hhost : h.parameters.hostUrl = some host
    · rw [setHost_of_eq hkept hhost now before]
    · exact (setHost_of_ne hkept hhost now before).1
  · intro hne
    exact (setHost_of_ne hkept hne now before).2
  · intro hhost
    exact ⟨setHost_of_eq hkept hhost now before, reachable.exists_lastAsked hhost,
      fun asked last => last.formats_of_hostUrl hhost⟩
  · intro between blank earlier hblank
    exact setHost_of_blank hblank between earlier
  · intro between other earlier later next hrun hne
    -- What was taken in between is not the address, so setting the address changes it.
    have houtcome := outcome_setParameter h between .hostUrl other earlier
    rw [hrun] at houtcome
    have hparameters : next.parameters = h.parameters.put (Text.nonBlank? other) .hostUrl :=
      houtcome.of_ok rfl
    have hother : next.parameters.hostUrl = Text.nonBlank? other := by
      rw [hparameters]
      exact get?_put_self h.parameters (Text.nonBlank? other) .hostUrl
    rw [← hother] at hne
    exact (setHost_of_ne hkept hne now before).2.1

/-- The sample repository, which is down for the first request. -/
def recovering : Repository where
  answer before url := if before = [] then .error "down" else Repository.sample.answer before url

/-- The request for the formats of that repository. -/
def failedRequests : List String := ["a:?verb=ListMetadataFormats"]

/-- A harvester with the address of that repository, set while it was down. -/
def unresolved : Harvester :=
  (((initial sampleCatalog).setParameter recovering .hostUrl "a:").run []).1.2

theorem requests_unresolved :
    (((initial sampleCatalog).setParameter recovering .hostUrl "a:").run []).2 =
      failedRequests := by
  decide +kernel

theorem reachable_unresolved : Reachable sampleCatalog recovering unresolved failedRequests := by
  rw [← requests_unresolved]
  exact .setParameter (.initial []) .hostUrl "a:"

theorem lastAsked_unresolved :
    LastAsked sampleCatalog recovering unresolved failedRequests [] := by
  have hasks : (((initial sampleCatalog).setParameter recovering .hostUrl "a:").run []).2 ≠ [] := by
    rw [requests_unresolved]
    exact List.cons_ne_nil _ _
  rw [← requests_unresolved]
  exact .asks (.initial []) .hostUrl "a:" hasks

theorem advertised_recovering :
    ((recovering.formats "a:").run failedRequests).1.toList = [("p", "s")] := by
  decide +kernel

/-- The address is set again when the repository is up: it has one format then, and none is
known. -/
theorem formats_setHost_unresolved :
    let again := (unresolved.setParameter recovering .hostUrl "a:").run failedRequests
    Reachable sampleCatalog recovering unresolved failedRequests ∧
      Url.Address.read (Text.trimmed "a:") = .ok ⟨"a", .empty⟩ ∧ again.1.1 = .ok () ∧
      again.1.2.negotiation.formats ≠
        ((recovering.formats (Text.trimmed "a:")).run failedRequests).1 := by
  intro again
  have htrimmed : Text.trimmed "a:" = "a:" := by decide
  have hnone : again.1.2.negotiation.formats.toList = [] := by decide +kernel
  refine ⟨reachable_unresolved, by decide, by decide +kernel, fun hsame => ?_⟩
  rw [hsame, htrimmed, advertised_recovering] at hnone
  cases hnone

/-- When a blank address is set in between, the format is known. -/
theorem formats_setHost_recovering :
    Reachable sampleCatalog recovering unresolved failedRequests ∧
      unresolved.parameters.hostUrl = some "a:" ∧
      (unresolved.setParameter recovering .hostUrl "a:").run failedRequests =
        ((.ok (), unresolved), failedRequests) ∧
      unresolved.negotiation.formats = ((recovering.formats "a:").run []).1 ∧
      ∃ blank, (unresolved.setParameter recovering .hostUrl "").run failedRequests =
          ((.ok (), blank), failedRequests) ∧
        ((blank.setParameter recovering .hostUrl "a:").run
          failedRequests).1.2.negotiation.formats.toList = [("p", "s")] := by
  have htrimmed : Text.trimmed "a:" = "a:" := by decide
  have hvalid : Url.Address.read "a:" = .ok ⟨"a", .empty⟩ := by decide
  have hhost : unresolved.parameters.hostUrl = some "a:" := by decide +kernel
  obtain ⟨-, -, hsame, hblank, hother⟩ :=
    formats_setHost reachable_unresolved htrimmed hvalid recovering failedRequests
  obtain ⟨blank, hrun⟩ := hblank recovering "" failedRequests Text.nonBlank?_empty
  have hne : Text.nonBlank? "" ≠ some "a:" := by
    rw [Text.nonBlank?_empty]
    exact nofun
  obtain ⟨hrun', -, hlast⟩ := hsame hhost
  obtain ⟨-, hformats⟩ := hlast [] lastAsked_unresolved
  refine ⟨reachable_unresolved, hhost, hrun', hformats, blank, hrun, ?_⟩
  rw [hother recovering "" failedRequests failedRequests blank hrun hne, advertised_recovering]

end MetadataHarvest.Harvester
