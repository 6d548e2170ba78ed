import MetadataHarvest.Proofs.Format.Binding
import MetadataHarvest.Protocol.FormatList
import Mathlib.Data.List.Induction

/-!
# What may be chosen

The prefixes that are offered for a choice are those that a repository advertises with a
schema that the catalog supports: each once, in the order in which they were first
advertised. They are exactly the prefixes that bind a transformer, so whatever is picked from
an offer binds.
-/

namespace MetadataHarvest

open Protocol

namespace Registry

variable {α : Type}

theorem ofList_append_singleton (entries : List (String × α)) (entry : String × α) :
    ofList (entries ++ [entry]) = (ofList entries).insert entry.1 entry.2 := by
  simp only [ofList, List.foldl_append, List.foldl_cons, List.foldl_nil]

/-- The keys of entries are kept in the order in which they first came. -/
theorem keys_ofList (entries : List (String × α)) :
    (ofList entries).keys = (entries.map (·.1)).eraseDups := by
  induction entries using List.reverseRecOn with
  | nil => rfl
  | append_singleton entries entry ih =>
      rw [keys] at ih ⊢
      rw [ofList_append_singleton, entries_insert, keys_put, ih, List.map_append,
        List.eraseDups_append]
      by_cases hmem : entry.1 ∈ entries.map (·.1)
      · rw [if_pos (List.mem_eraseDups.mpr hmem)]
        simp [List.removeAll, hmem]
      · rw [if_neg (mt List.mem_eraseDups.mp hmem)]
        simp [List.removeAll, hmem, List.eraseDups_cons]

end Registry

namespace AdvertisedFormats

variable {catalog : Catalog} {formats : AdvertisedFormats} {name : String}

theorem isEmpty_iff : formats.isEmpty = true ↔ formats.toList = [] :=
  List.isEmpty_iff

/-- The prefixes that may be chosen are those with a supported schema, in their order. -/
theorem usablePrefixes_eq_filter (formats : AdvertisedFormats) (catalog : Catalog) :
    formats.usablePrefixes catalog =
      formats.schemas.keys.filter fun name => (formats.schema? name).any catalog.supports := by
  rw [usablePrefixes, Registry.keys, List.filter_map]
  congr 1
  apply List.filter_congr
  intro format hmem
  have hschema : formats.schema? format.1 = some format.2 := Registry.get?_of_mem hmem
  rw [Function.comp_apply, hschema, Option.any_some]

theorem nodup_usablePrefixes (formats : AdvertisedFormats) (catalog : Catalog) :
    (formats.usablePrefixes catalog).Nodup := by
  rw [usablePrefixes_eq_filter]
  exact formats.schemas.nodup.filter _

/-- A prefix may be chosen when there is a transformer for its schema. -/
theorem mem_usablePrefixes_iff :
    name ∈ formats.usablePrefixes catalog ↔
      ∃ schema t, formats.schema? name = some schema ∧ catalog.transformer? schema = some t := by
  rw [usablePrefixes_eq_filter, List.mem_filter]
  constructor
  · rintro ⟨-, hsupported⟩
    cases hschema : formats.schema? name with
    | none =>
        rw [hschema] at hsupported
        cases hsupported
    | some schema =>
        rw [hschema, Option.any_some] at hsupported
        obtain ⟨t, ht⟩ := Option.isSome_iff_exists.mp hsupported
        exact ⟨schema, t, rfl, ht⟩
  · rintro ⟨schema, t, hschema, ht⟩
    refine ⟨Registry.mem_keys_of_lookup hschema, ?_⟩
    rw [hschema, Option.any_some]
    exact Option.isSome_of_eq_some ht

end AdvertisedFormats

section Obstacle

variable {catalog : Catalog} {formats : AdvertisedFormats} {metadataPrefix : Option String}

/-- The first obstacle to binding a prefix. -/
inductive Obstacle (catalog : Catalog) (formats : AdvertisedFormats)
    (metadataPrefix : Option String) : ConfigurationError → Prop
  | emptyPrefix (blank : ∀ p, metadataPrefix = some p → Text.trimmed p = "") :
      Obstacle catalog formats metadataPrefix (.emptyPrefix (formats.usablePrefixes catalog))
  | noRepositoryFormats {p : String} (given : metadataPrefix = some p)
      (shown : Text.trimmed p ≠ "") (nothing : formats.toList = []) :
      Obstacle catalog formats metadataPrefix .noRepositoryFormats
  | prefixNotAdvertised {p : String} (given : metadataPrefix = some p)
      (shown : Text.trimmed p ≠ "") (something : formats.toList ≠ [])
      (unknown : formats.schema? (Text.trimmed p) = none) :
      Obstacle catalog formats metadataPrefix
        (.prefixNotAdvertised (Text.trimmed p) (formats.usablePrefixes catalog))
  | schemaNotSupported {p schema : String} (given : metadataPrefix = some p)
      (shown : Text.trimmed p ≠ "") (advertised : formats.schema? (Text.trimmed p) = some schema)
      (unsupported : catalog.transformer? schema = none) :
      Obstacle catalog formats metadataPrefix
        (.schemaNotSupported (Text.trimmed p) schema (formats.usablePrefixes catalog))

theorem bind_nonBlank? {p : String} (given : metadataPrefix = some p)
    (shown : Text.trimmed p ≠ "") :
    metadataPrefix.bind Text.nonBlank? = some (Text.trimmed p) := by
  rw [given, Option.bind_some]
  exact Text.nonBlank?_eq_some_iff.mpr ⟨rfl, shown⟩

/-- An obstacle keeps the prefix from binding. -/
theorem Obstacle.bindTransformer_eq {cause : ConfigurationError}
    (h : Obstacle catalog formats metadataPrefix cause) :
    bindTransformer catalog formats metadataPrefix = .error cause := by
  cases h with
  | emptyPrefix blank =>
      have hblank : metadataPrefix.bind Text.nonBlank? = none := by
        cases metadataPrefix with
        | none => rfl
        | some p => simp [Text.nonBlank?, blank p rfl]
      simp only [bindTransformer, hblank]
  | noRepositoryFormats given shown nothing =>
      have hempty : formats.isEmpty = true := AdvertisedFormats.isEmpty_iff.mpr nothing
      simp only [bindTransformer, bind_nonBlank? given shown, hempty, if_true]
  | prefixNotAdvertised given shown something unknown =>
      have hempty : ¬formats.isEmpty = true := mt AdvertisedFormats.isEmpty_iff.mp something
      simp only [bindTransformer, bind_nonBlank? given shown, if_neg hempty, unknown]
  | schemaNotSupported given shown advertised unsupported =>
      have hempty := AdvertisedFormats.isEmpty_eq_false_of_schema? advertised
      simp only [bindTransformer, bind_nonBlank? given shown, hempty, Bool.false_eq_true,
        if_false, advertised, unsupported]

/-- A prefix without an obstacle binds. -/
theorem obstacle_or_binds (catalog : Catalog) (formats : AdvertisedFormats)
    (metadataPrefix : Option String) :
    (∃ cause, Obstacle catalog formats metadataPrefix cause) ∨
      ∃ t, bindTransformer catalog formats metadataPrefix = .ok t := by
  cases metadataPrefix with
  | none => exact .inl ⟨_, .emptyPrefix nofun⟩
  | some p =>
      by_cases shown : Text.trimmed p = ""
      · refine .inl ⟨_, .emptyPrefix ?_⟩
        rintro _ ⟨⟩
        exact shown
      by_cases nothing : formats.toList = []
      · exact .inl ⟨_, .noRepositoryFormats rfl shown nothing⟩
      cases hschema : formats.schema? (Text.trimmed p) with
      | none => exact .inl ⟨_, .prefixNotAdvertised rfl shown nothing hschema⟩
      | some schema =>
          cases ht : catalog.transformer? schema with
          | none => exact .inl ⟨_, .schemaNotSupported rfl shown hschema ht⟩
          | some t =>
              refine .inr ⟨t, bindTransformer_eq_ok_iff.mpr ⟨_, schema, ?_, hschema, ht⟩⟩
              exact bind_nonBlank? rfl shown

/-- What keeps a prefix from binding is the first obstacle. -/
theorem bindTransformer_eq_error_iff {cause : ConfigurationError} :
    bindTransformer catalog formats metadataPrefix = .error cause ↔
      Obstacle catalog formats metadataPrefix cause := by
  constructor
  · intro h
    rcases obstacle_or_binds catalog formats metadataPrefix with ⟨first, hfirst⟩ | ⟨t, ht⟩
    · rw [hfirst.bindTransformer_eq] at h
      obtain rfl := Except.error.inj h
      exact hfirst
    · rw [ht] at h
      cases h
  · intro h
    exact h.bindTransformer_eq

end Obstacle

/-- The formats of a response are those of its list that have a prefix and a schema. -/
theorem exists_of_advertisedFormats {body : String} {formats : AdvertisedFormats}
    (h : advertisedFormats body = .ok formats) :
    ∃ envelope offers, Envelope.read body = .ok envelope ∧ envelope.formats = some offers ∧
      formats = .ofList (offers.filterMap OfferedFormat.pair?) := by
  unfold advertisedFormats at h
  cases hread : Envelope.read body with
  | error e =>
      rw [hread] at h
      cases h
  | ok envelope =>
      simp only [hread, bind, Except.bind] at h
      cases hformats : envelope.formats with
      | none =>
          rw [hformats] at h
          cases h
      | some offers =>
          rw [hformats] at h
          exact ⟨envelope, offers, rfl, hformats, (Except.ok.inj h).symm⟩

/-- The prefixes that a response advertises have no outer blanks and are not empty. -/
theorem nonBlank?_of_mem_pairs {offers : List OfferedFormat} {pair : String × String}
    (h : pair ∈ offers.filterMap OfferedFormat.pair?) :
    Text.nonBlank? pair.1 = some pair.1 := by
  obtain ⟨offer, -, hpair⟩ := List.mem_filterMap.mp h
  rw [OfferedFormat.pair?] at hpair
  obtain ⟨name, hname, hrest⟩ := Option.bind_eq_some_iff.mp hpair
  obtain ⟨schema, -, hschema⟩ := Option.bind_eq_some_iff.mp hrest
  obtain rfl := Option.some.inj hschema
  exact Text.nonBlank?_of_nonBlank? hname

/-- What is advertised is advertised under a prefix without outer blanks. -/
theorem nonBlank?_of_advertised {body : String} {formats : AdvertisedFormats}
    (h : advertisedFormats body = .ok formats) {name schema : String}
    (hschema : formats.schema? name = some schema) : Text.nonBlank? name = some name := by
  obtain ⟨envelope, offers, -, -, rfl⟩ := exists_of_advertisedFormats h
  have hkey : name ∈ (Registry.ofList (offers.filterMap OfferedFormat.pair?)).keys :=
    Registry.mem_keys_of_lookup hschema
  rw [Registry.keys_ofList, List.mem_eraseDups] at hkey
  obtain ⟨pair, hmem, rfl⟩ := List.mem_map.mp hkey
  exact nonBlank?_of_mem_pairs hmem

/-- A prefix that may be chosen binds the transformer of its schema, with or without outer
blanks. -/
theorem bindTransformer_eq_ok_iff_mem {body : String} {formats : AdvertisedFormats}
    (h : advertisedFormats body = .ok formats) {catalog : Catalog}
    {metadataPrefix : Option String} {t : Transformer} :
    bindTransformer catalog formats metadataPrefix = .ok t ↔
      ∃ p schema, metadataPrefix = some p ∧
        Text.trimmed p ∈ formats.usablePrefixes catalog ∧
        formats.schema? (Text.trimmed p) = some schema ∧
        catalog.transformer? schema = some t := by
  rw [bindTransformer_eq_ok_iff]
  constructor
  · rintro ⟨name, schema, hname, hschema, ht⟩
    obtain ⟨p, rfl, hp⟩ := Option.bind_eq_some_iff.mp hname
    obtain ⟨rfl, -⟩ := Text.nonBlank?_eq_some_iff.mp hp
    refine ⟨p, schema, rfl, ?_, hschema, ht⟩
    exact AdvertisedFormats.mem_usablePrefixes_iff.mpr ⟨schema, t, hschema, ht⟩
  · rintro ⟨p, schema, rfl, -, hschema, ht⟩
    refine ⟨Text.trimmed p, schema, ?_, hschema, ht⟩
    rw [Option.bind_some, ← Text.nonBlank?_trimmed]
    exact nonBlank?_of_advertised h hschema

/-- What the formats of a response bind. A prefix binds exactly when without its outer blanks
it is one of those that may be chosen, and then it binds the transformer of the schema with
which it is advertised. Otherwise the first obstacle is reported, with the prefixes that may
be chosen. These are the advertised prefixes with a supported schema, each once and in the
order in which they first came, and each of them binds. -/
theorem bindTransformer_advertised {body : String} {formats : AdvertisedFormats}
    (hbody : advertisedFormats body = .ok formats) (catalog : Catalog) :
    let allowed := formats.usablePrefixes catalog
    (∀ metadataPrefix, (∃ t, bindTransformer catalog formats metadataPrefix = .ok t) ↔
      ∃ p, metadataPrefix = some p ∧ Text.trimmed p ∈ allowed) ∧
    (∀ p t, bindTransformer catalog formats (some p) = .ok t →
      (formats.schema? (Text.trimmed p)).bind catalog.transformer? = some t) ∧
    (∀ metadataPrefix cause, bindTransformer catalog formats metadataPrefix = .error cause ↔
      Obstacle catalog formats metadataPrefix cause) ∧
    (∀ metadataPrefix cause, Obstacle catalog formats metadataPrefix cause →
      cause.allowed = allowed) ∧
    allowed.Nodup ∧
    (∃ envelope offers, Envelope.read body = .ok envelope ∧ envelope.formats = some offers ∧
      allowed = ((offers.filterMap OfferedFormat.pair?).map (·.1)).eraseDups.filter
        fun name => (formats.schema? name).any catalog.supports) ∧
    ∀ name ∈ allowed, ∃ t, bindTransformer catalog formats (some name) = .ok t := by
  intro allowed
  have hbinds : ∀ metadataPrefix,
      (∃ t, bindTransformer catalog formats metadataPrefix = .ok t) ↔
        ∃ p, metadataPrefix = some p ∧ Text.trimmed p ∈ allowed := by
    intro metadataPrefix
    constructor
    · rintro ⟨t, ht⟩
      obtain ⟨p, schema, hp, hmem, -, -⟩ := (bindTransformer_eq_ok_iff_mem hbody).mp ht
      exact ⟨p, hp, hmem⟩
    · rintro ⟨p, hp, hmem⟩
      obtain ⟨schema, t, hschema, ht⟩ := AdvertisedFormats.mem_usablePrefixes_iff.mp hmem
      exact ⟨t, (bindTransformer_eq_ok_iff_mem hbody).mpr ⟨p, schema, hp, hmem, hschema, ht⟩⟩
  refine ⟨hbinds, ?_, ?_, ?_, ?_, ?_, ?_⟩
  · intro p t ht
    obtain ⟨_, schema, ⟨⟩, -, hschema, ht'⟩ := (bindTransformer_eq_ok_iff_mem hbody).mp ht
    rw [hschema, Option.bind_some, ht']
  · intro metadataPrefix cause
    exact bindTransformer_eq_error_iff
  · intro metadataPrefix cause hobstacle
    cases hobstacle with
    | emptyPrefix blank => rfl
    | noRepositoryFormats given shown nothing =>
        simp [allowed, AdvertisedFormats.usablePrefixes, nothing, ConfigurationError.allowed]
    | prefixNotAdvertised given shown something unknown => rfl
    | schemaNotSupported given shown advertised unsupported => rfl
  · exact formats.nodup_usablePrefixes catalog
  · obtain ⟨envelope, offers, hread, hoffers, hformats⟩ := exists_of_advertisedFormats hbody
    refine ⟨envelope, offers, hread, hoffers, ?_⟩
    have hkeys := Registry.keys_ofList (offers.filterMap OfferedFormat.pair?)
    rw [← hkeys]
    subst hformats
    exact AdvertisedFormats.usablePrefixes_eq_filter _ catalog
  · intro name hmem
    obtain ⟨schema, t, hschema, -⟩ := AdvertisedFormats.mem_usablePrefixes_iff.mp hmem
    have hname := Text.trimmed_of_nonBlank? (nonBlank?_of_advertised hbody hschema)
    apply (hbinds (some name)).mpr
    refine ⟨name, rfl, ?_⟩
    rw [hname]
    exact hmem

/-- A response with one format, whose prefix has blanks around it. -/
def paddedFormats : String :=
  "<o><ListMetadataFormats><metadataFormat><metadataPrefix> p </metadataPrefix>"
    ++ "<metadataNamespace>s</metadataNamespace></metadataFormat></ListMetadataFormats></o>"

def oneFormat : Catalog := Catalog.empty.register "s" .dublinCore

/-- The format binds under its prefix, with other blanks than in the response, and under no
other prefix. -/
theorem bindTransformer_advertised_padded :
    ∃ formats, advertisedFormats paddedFormats = .ok formats ∧ formats.toList = [("p", "s")] ∧
      (∃ t, bindTransformer oneFormat formats (some "p  ") = .ok t) ∧
      bindTransformer oneFormat formats (some "q") =
        .error (.prefixNotAdvertised "q" (formats.usablePrefixes oneFormat)) := by
  have hlist : (advertisedFormats paddedFormats).map (·.toList) = .ok [("p", "s")] := by
    decide +kernel
  cases hbody : advertisedFormats paddedFormats with
  | error e =>
      rw [hbody] at hlist
      cases hlist
  | ok formats =>
      rw [hbody] at hlist
      have htoList : formats.toList = [("p", "s")] := Except.ok.inj hlist
      have hschema : ∀ name, formats.schema? name = [("p", "s")].lookup name := by
        intro name
        rw [← htoList]
        rfl
      obtain ⟨hbinds, -, herror, -⟩ := bindTransformer_advertised hbody oneFormat
      refine ⟨formats, rfl, htoList, ?_, ?_⟩
      · apply (hbinds (some "p  ")).mpr
        refine ⟨"p  ", rfl, AdvertisedFormats.mem_usablePrefixes_iff.mpr ?_⟩
        refine ⟨"s", .dublinCore, ?_, rfl⟩
        rw [hschema]
        decide +kernel
      · have htrimmed : Text.trimmed "q" = "q" := by decide +kernel
        have hobstacle : Obstacle oneFormat formats (some "q")
            (.prefixNotAdvertised (Text.trimmed "q") (formats.usablePrefixes oneFormat)) := by
          apply Obstacle.prefixNotAdvertised rfl
          · rw [htrimmed]
            decide
          · rw [htoList]
            exact List.cons_ne_nil _ _
          · rw [htrimmed, hschema]
            rfl
        rw [htrimmed] at hobstacle
        exact (herror _ _).mpr hobstacle

end MetadataHarvest
