import MetadataHarvest.Negotiation
import MetadataHarvest.Protocol.RecordPage
import MetadataHarvest.Proofs.Format.Binding
import MetadataHarvest.Proofs.Repository.Requests

/-!
# The course of a negotiation

Addresses and prefixes may be set in any order, and setting either may fail. What is left
of a course of such calls depends on two of them only: the last address that was set, with
what the repository advertised at that moment, and the last prefix that was accepted. The
transformer is always what this prefix binds among these formats.

## Implementation notes

An entry keeps the requests made before its call. A repository answers by its past, so that
these requests name the moment of the call, and asking again with the same past gives what
the call itself was told.
-/

namespace MetadataHarvest

namespace Protocol

/-- The value of a later element counts before those of the earlier ones. -/
theorem lastSome?_append_singleton {α β : Type} (f : α → Option β) (as : List α) (a : α) :
    lastSome? f (as ++ [a]) = (f a).or (lastSome? f as) := by
  cases h : f a with
  | none => simp [lastSome?, h]
  | some b => simp [lastSome?, h]

end Protocol

namespace Negotiation

open Protocol

/-- What may be asked of a negotiation. -/
inductive Call where
  | setHost (hostUrl : String)
  | setPrefix (metadataPrefix : String)

/-- The requests that a call makes. -/
def Call.requests : Call → List String
  | setHost hostUrl => Repository.formatRequests hostUrl
  | setPrefix _ => []

/-- Carries out a call. A prefix that is refused leaves everything as it is. -/
def perform (n : Negotiation) (catalog : Catalog) (r : Repository) :
    Call → Session (Except ConfigurationError Transformer × Negotiation)
  | .setHost hostUrl => n.setHost catalog r hostUrl
  | .setPrefix metadataPrefix =>
    match n.setPrefix catalog metadataPrefix with
    | .error cause => return (.error cause, n)
    | .ok (transformer, next) => return (.ok transformer, next)

/-- A call, the requests made before it, and what came of it. -/
structure Entry where
  call : Call
  before : List String
  outcome : Except ConfigurationError Transformer

namespace Entry

/-- The address that was set, and the requests made before. -/
def address? (e : Entry) : Option (String × List String) :=
  match e.call with
  | .setHost hostUrl => some (hostUrl, e.before)
  | .setPrefix _ => none

/-- The prefix that was accepted, without its outer blanks. -/
def acceptedPrefix? (e : Entry) : Option String :=
  match e.call, e.outcome with
  | .setPrefix metadataPrefix, .ok _ => some (Text.trimmed metadataPrefix)
  | _, _ => none

end Entry

/-- A negotiation with the calls that led to it and all requests made so far. -/
structure Course where
  entries : List Entry
  negotiation : Negotiation
  requests : List String

/-- The course with one more call. -/
def Course.next (catalog : Catalog) (r : Repository) (c : Course) (call : Call) : Course :=
  let result := (c.negotiation.perform catalog r call).run c.requests
  { entries := c.entries ++ [⟨call, c.requests, result.1.1⟩]
    negotiation := result.1.2
    requests := result.2 }

/-- The course of these calls from a new negotiation on, after other requests. -/
def course (catalog : Catalog) (r : Repository) (before : List String) (calls : List Call) :
    Course :=
  calls.foldl (Course.next catalog r) ⟨[], initial, before⟩

variable {catalog : Catalog} {r : Repository}

theorem course_append_singleton (catalog : Catalog) (r : Repository) (before : List String)
    (calls : List Call) (call : Call) :
    course catalog r before (calls ++ [call]) =
      (course catalog r before calls).next catalog r call := by
  simp only [course, List.foldl_append, List.foldl_cons, List.foldl_nil]

@[simp] theorem hostUrl_moveTo (n : Negotiation) (catalog : Catalog) (hostUrl : String)
    (formats : AdvertisedFormats) :
    (n.moveTo catalog hostUrl formats).hostUrl = some hostUrl := rfl

@[simp] theorem formats_moveTo (n : Negotiation) (catalog : Catalog) (hostUrl : String)
    (formats : AdvertisedFormats) : (n.moveTo catalog hostUrl formats).formats = formats := rfl

@[simp] theorem metadataPrefix_moveTo (n : Negotiation) (catalog : Catalog) (hostUrl : String)
    (formats : AdvertisedFormats) :
    (n.moveTo catalog hostUrl formats).metadataPrefix = n.metadataPrefix := rfl

@[simp] theorem transformer_moveTo (n : Negotiation) (catalog : Catalog) (hostUrl : String)
    (formats : AdvertisedFormats) :
    (n.moveTo catalog hostUrl formats).transformer =
      (bindTransformer catalog formats n.metadataPrefix).toOption := rfl

/-- A new address is taken with the formats of the moment. -/
theorem run_perform_setHost (n : Negotiation) (catalog : Catalog) (r : Repository)
    (hostUrl : String) (before : List String) :
    (n.perform catalog r (.setHost hostUrl)).run before =
      ((bindTransformer catalog ((r.formats hostUrl).run before).1 n.metadataPrefix,
        n.moveTo catalog hostUrl ((r.formats hostUrl).run before).1),
        before ++ Repository.formatRequests hostUrl) := by
  rw [← Repository.requests_formats r hostUrl before]
  simp only [perform, setHost, StateT.run_bind, StateT.run_pure]
  rfl

/-- A new prefix is taken when it binds a transformer. -/
theorem setPrefix_of_bind {n : Negotiation} {metadataPrefix : String} {t : Transformer}
    (h : bindTransformer catalog n.formats (some metadataPrefix) = .ok t) :
    n.setPrefix catalog metadataPrefix =
      .ok (t, { n with metadataPrefix := some (Text.trimmed metadataPrefix),
                       transformer := some t }) := by
  simp only [setPrefix, h]
  rfl

theorem setPrefix_of_bind_error {n : Negotiation} {metadataPrefix : String}
    {cause : ConfigurationError}
    (h : bindTransformer catalog n.formats (some metadataPrefix) = .error cause) :
    n.setPrefix catalog metadataPrefix = .error cause := by
  simp only [setPrefix, h]
  rfl

/-- Setting a prefix makes no request, and none that is refused changes anything. -/
theorem run_perform_setPrefix (n : Negotiation) (catalog : Catalog) (r : Repository)
    (metadataPrefix : String) (before : List String) :
    (n.perform catalog r (.setPrefix metadataPrefix)).run before =
      ((bindTransformer catalog n.formats (some metadataPrefix),
        match bindTransformer catalog n.formats (some metadataPrefix) with
        | .error _ => n
        | .ok t => { n with metadataPrefix := some (Text.trimmed metadataPrefix),
                            transformer := some t }), before) := by
  unfold perform
  cases h : bindTransformer catalog n.formats (some metadataPrefix) with
  | error cause =>
      simp only [setPrefix_of_bind_error h]
      rfl
  | ok t =>
      simp only [setPrefix_of_bind h]
      rfl

/-- The formats of the last address that was set, as advertised when it was. -/
def Course.formats (r : Repository) (c : Course) : AdvertisedFormats :=
  match lastSome? Entry.address? c.entries with
  | none => .empty
  | some (hostUrl, before) => ((r.advertised hostUrl).run before).1.toOption.getD .empty

/-- The negotiation is what the last address and the last accepted prefix make it. -/
structure Course.Sound (catalog : Catalog) (r : Repository) (c : Course) : Prop where
  hostUrl : c.negotiation.hostUrl = (lastSome? Entry.address? c.entries).map (·.1)
  formats : c.negotiation.formats = c.formats r
  metadataPrefix : c.negotiation.metadataPrefix = lastSome? Entry.acceptedPrefix? c.entries
  kept : c.negotiation.metadataPrefix.bind Text.nonBlank? = c.negotiation.metadataPrefix
  transformer : c.negotiation.transformer =
    (bindTransformer catalog c.negotiation.formats c.negotiation.metadataPrefix).toOption

theorem Course.sound_initial (catalog : Catalog) (r : Repository) (before : List String) :
    Course.Sound catalog r ⟨[], initial, before⟩ where
  hostUrl := rfl
  formats := rfl
  metadataPrefix := rfl
  kept := rfl
  transformer := rfl

theorem Course.Sound.setHost {c : Course} (hc : c.Sound catalog r) (hostUrl : String) :
    (c.next catalog r (.setHost hostUrl)).Sound catalog r := by
  have hrun := run_perform_setHost c.negotiation catalog r hostUrl c.requests
  constructor
  · simp [next, hrun, lastSome?_append_singleton, Entry.address?]
  · simp only [next, hrun, formats_moveTo, Course.formats, lastSome?_append_singleton,
      Entry.address?, Option.some_or, Repository.run_formats]
  · simp [next, hrun, lastSome?_append_singleton, Entry.acceptedPrefix?, hc.metadataPrefix]
  · simpa only [next, hrun, metadataPrefix_moveTo] using hc.kept
  · simp only [next, hrun, formats_moveTo, metadataPrefix_moveTo, transformer_moveTo]

theorem Course.Sound.setPrefix {c : Course} (hc : c.Sound catalog r) (metadataPrefix : String) :
    (c.next catalog r (.setPrefix metadataPrefix)).Sound catalog r := by
  have hrun := run_perform_setPrefix c.negotiation catalog r metadataPrefix c.requests
  -- No address is set, so the last one and its formats are those of before.
  have haddress :
      lastSome? Entry.address? (c.next catalog r (.setPrefix metadataPrefix)).entries =
        lastSome? Entry.address? c.entries := by
    simp [next, lastSome?_append_singleton, Entry.address?]
  have hformats : (c.next catalog r (.setPrefix metadataPrefix)).formats r = c.formats r := by
    simp only [Course.formats, haddress]
  cases hb : bindTransformer catalog c.negotiation.formats (some metadataPrefix) with
  | error cause =>
      rw [hb] at hrun
      have hn : (c.next catalog r (.setPrefix metadataPrefix)).negotiation = c.negotiation := by
        simp only [next, hrun]
      have haccepted : lastSome? Entry.acceptedPrefix?
          (c.next catalog r (.setPrefix metadataPrefix)).entries =
            lastSome? Entry.acceptedPrefix? c.entries := by
        simp [next, hrun, lastSome?_append_singleton, Entry.acceptedPrefix?]
      constructor
      · rw [hn, haddress, hc.hostUrl]
      · rw [hn, hformats, hc.formats]
      · rw [hn, haccepted, hc.metadataPrefix]
      · rw [hn, hc.kept]
      · rw [hn, hc.transformer]
  | ok t =>
      rw [hb] at hrun
      have hn : (c.next catalog r (.setPrefix metadataPrefix)).negotiation =
          { c.negotiation with
            metadataPrefix := some (Text.trimmed metadataPrefix)
            transformer := some t } := by
        simp only [next, hrun]
      have haccepted : lastSome? Entry.acceptedPrefix?
          (c.next catalog r (.setPrefix metadataPrefix)).entries =
            some (Text.trimmed metadataPrefix) := by
        simp [next, hrun, lastSome?_append_singleton, Entry.acceptedPrefix?]
      constructor
      · rw [hn, haddress, hc.hostUrl]
      · rw [hn, hformats, hc.formats]
      · rw [hn, haccepted]
      · rw [hn, Option.bind_some, Text.nonBlank?_trimmed, nonBlank?_of_bindTransformer hb]
      · rw [hn, bindTransformer_trimmed, hb]
        rfl

theorem Course.Sound.next {c : Course} (hc : c.Sound catalog r) (call : Call) :
    (c.next catalog r call).Sound catalog r := by
  cases call with
  | setHost hostUrl => exact hc.setHost hostUrl
  | setPrefix metadataPrefix => exact hc.setPrefix metadataPrefix

/-- Every course is sound, since each call keeps it so. -/
theorem course_sound (catalog : Catalog) (r : Repository) (before : List String)
    (calls : List Call) : (course catalog r before calls).Sound catalog r := by
  induction calls using List.reverseRecOn with
  | nil => exact Course.sound_initial catalog r before
  | append_singleton calls call ih =>
      rw [course_append_singleton]
      exact ih.next call

theorem calls_course (catalog : Catalog) (r : Repository) (before : List String)
    (calls : List Call) :
    (course catalog r before calls).entries.map (·.call) = calls := by
  induction calls using List.reverseRecOn with
  | nil => rfl
  | append_singleton calls call ih =>
      simp [course_append_singleton, Course.next, ih]

/-- Only addresses make requests: one for each address that is not blank. -/
theorem requests_course (catalog : Catalog) (r : Repository) (before : List String)
    (calls : List Call) :
    (course catalog r before calls).requests = before ++ calls.flatMap Call.requests := by
  induction calls using List.reverseRecOn with
  | nil => simp [course]
  | append_singleton calls call ih =>
      rw [course_append_singleton, List.flatMap_append, ← List.append_assoc, ← ih]
      cases call with
      | setHost hostUrl => simp [Course.next, run_perform_setHost, Call.requests]
      | setPrefix metadataPrefix => simp [Course.next, run_perform_setPrefix, Call.requests]

/-- What a course of calls leaves: the last address, the formats advertised when it was set,
the last prefix that was accepted, and the transformer that this prefix binds among these
formats, if it binds one. A prefix that is refused leaves all of it, and none makes a
request. -/
theorem negotiation_course (catalog : Catalog) (r : Repository) (before : List String)
    (calls : List Call) :
    let c := course catalog r before calls
    let n := c.negotiation
    c.entries.map (·.call) = calls ∧
      n.hostUrl = (lastSome? Entry.address? c.entries).map (·.1) ∧
      n.formats = (match lastSome? Entry.address? c.entries with
        | none => .empty
        | some (hostUrl, asked) =>
          ((r.advertised hostUrl).run asked).1.toOption.getD .empty) ∧
      n.metadataPrefix = lastSome? Entry.acceptedPrefix? c.entries ∧
      n.transformer = (bindTransformer catalog n.formats n.metadataPrefix).toOption ∧
      (∀ t, n.transformer = some t ↔ ∃ name schema, n.metadataPrefix = some name ∧
        n.formats.schema? name = some schema ∧ catalog.transformer? schema = some t) ∧
      c.requests = before ++ calls.flatMap Call.requests ∧
      ∀ metadataPrefix,
        let result := (n.perform catalog r (.setPrefix metadataPrefix)).run c.requests
        result.2 = c.requests ∧
          ∀ cause, result.1.1 = .error cause → result.1.2 = n := by
  intro c n
  have hc : c.Sound catalog r := course_sound catalog r before calls
  refine ⟨calls_course catalog r before calls, hc.hostUrl, hc.formats, hc.metadataPrefix,
    hc.transformer, ?_, requests_course catalog r before calls, ?_⟩
  · intro t
    rw [hc.transformer, bindTransformer_toOption_eq_some_iff, hc.kept]
  · intro metadataPrefix result
    have hrun : result = _ := run_perform_setPrefix n catalog r metadataPrefix c.requests
    rw [hrun]
    refine ⟨rfl, fun cause herror => ?_⟩
    dsimp only at herror ⊢
    rw [herror]

end Negotiation

end MetadataHarvest
