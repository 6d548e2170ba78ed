import MetadataHarvest.Document.Json
import MetadataHarvest.Proofs.Json.RoundTrip

/-!
# Records as objects

A record is written as an object that has those of its fields that have a value, in order. From
such an object each name gives the value that was written under it, and a name that was left out
gives none. Which fields a record has is settled once, so what is left for a kind of value is that
its own writer and reader agree.
-/

namespace MetadataHarvest.Json

variable {α : Type}

/-- What is written of an `α` is read as that `α`, given that it is `Valid`. -/
structure IsCodec (Valid : α → Prop) (encode : α → Value) (decode : Value → Option α) : Prop where
  isGrammatical : ∀ a, (encode a).IsGrammatical
  /-- A null would be taken for a missing value. -/
  ne_null : ∀ a, encode a ≠ .scalar .null
  decode_encode : ∀ a, Valid a → decode (encode a) = some a

/-- The fields of a record that have a value, where `values` has a place for each of its
`names`. -/
inductive IsRecord : List String → List (Option Value) → List (String × Value) → Prop
  | nil : IsRecord [] [] []
  | absent {name : String} {names : List String} {values : List (Option Value)}
    {fields : List (String × Value)} (h : IsRecord names values fields) :
    IsRecord (name :: names) (none :: values) fields
  | present {name : String} {names : List String} {v : Value} {values : List (Option Value)}
    {fields : List (String × Value)} (hv : v.IsGrammatical) (h : IsRecord names values fields) :
    IsRecord (name :: names) (some v :: values) ((name, v) :: fields)

section Keys

theorem lookup_key (fields : List (String × Value)) (name : String) :
    (fields.map fun field => (some field.1, field.2)).lookup (some name) = fields.lookup name := by
  induction fields with
  | nil => rfl
  | cons field fields ih =>
      obtain ⟨key, value⟩ := field
      simp [List.lookup_cons, ih]

theorem filterMap_key (fields : List (String × Value)) (p : String → Bool) :
    (fields.map fun field => (some field.1, field.2)).filterMap (fun field => field.1.filter p)
      = (fields.map Prod.fst).filter p := by
  rw [List.filterMap_map, ← List.filterMap_eq_filter, List.filterMap_map]
  rfl

end Keys

namespace IsRecord

variable {names : List String} {values : List (Option Value)} {fields : List (String × Value)}

theorem sublist (h : IsRecord names values fields) : (fields.map Prod.fst).Sublist names := by
  induction h with
  | nil => exact .slnil
  | absent _ ih => exact .cons _ ih
  | present _ _ ih => exact .cons_cons _ ih

theorem isGrammatical (h : IsRecord names values fields) :
    (Value.ofFields fields).IsGrammatical := by
  have hvalues : ∀ field ∈ fields, field.2.IsGrammatical := by
    induction h with
    | nil => simp
    | absent _ ih => exact ih
    | present hv _ ih => exact List.forall_mem_cons.mpr ⟨hv, ih⟩
  refine .object fun field hfield => ?_
  obtain ⟨source, hsource, rfl⟩ := List.mem_map.mp hfield
  exact hvalues source hsource

theorem lookup_eq_none (h : IsRecord names values fields) {name : String} (hn : name ∉ names) :
    fields.lookup name = none := by
  rw [List.lookup_eq_none_iff]
  intro field hfield
  have hmem := h.sublist.subset (List.mem_map_of_mem hfield)
  rw [bne_iff_ne]
  rintro rfl
  exact hn hmem

/-- Each name gives its own value. -/
theorem map_lookup (h : IsRecord names values fields) (hn : names.Nodup) :
    names.map (fun name => fields.lookup name) = values := by
  induction h with
  | nil => rfl
  | absent h ih =>
      rw [List.nodup_cons] at hn
      rw [List.map_cons, h.lookup_eq_none hn.1, ih hn.2]
  | @present name names v values fields hv h ih =>
      rw [List.nodup_cons] at hn
      have hothers : names.map (fun n => ((name, v) :: fields).lookup n)
          = names.map fun n => fields.lookup n := by
        refine List.map_congr_left fun n hmem => ?_
        have hne : n ≠ name := by
          rintro rfl
          exact hn.1 hmem
        rw [List.lookup_cons, beq_false_of_ne hne]
      rw [List.map_cons, List.lookup_cons_self, hothers, ih hn.2]

/-- From the object that a record is written as, its values are read. -/
theorem recordFields? (h : IsRecord names values fields) (hn : names.Nodup) (least : Nat) :
    recordFields? names least (.ofFields fields) = some values := by
  have hkeys : (fields.map fun field => (some field.1, field.2)).any (·.1.isNone) = false := by
    simp
  have hnodup : ((fields.map fun field => (some field.1, field.2)).filterMap
      fun field => field.1.filter (names.contains ·)).Nodup := by
    rw [filterMap_key]
    exact (hn.sublist h.sublist).filter _
  simp only [Value.ofFields, Json.recordFields?, hkeys, Bool.false_eq_true, if_false, if_pos hnodup,
    lookup_key, h.map_lookup hn]

end IsRecord

section Whole

theorem mapM_map_eq_some {β : Type} {f : α → β} {g : β → Option α} {as : List α}
    (h : ∀ a ∈ as, g (f a) = some a) : (as.map f).mapM g = some as := by
  induction as with
  | nil => rfl
  | cons a as ih =>
      rw [List.forall_mem_cons] at h
      rw [List.map_cons, List.mapM_cons, h.1, ih h.2]
      rfl

/-- A record none of whose fields is left out. -/
theorem isRecord_zip {names : List String} {values : List Value}
    (hlength : names.length = values.length) (h : ∀ v ∈ values, v.IsGrammatical) :
    IsRecord names (values.map some) (names.zip values) := by
  induction names generalizing values with
  | nil =>
      rw [List.eq_nil_of_length_eq_zero hlength.symm]
      exact .nil
  | cons name names ih =>
      obtain ⟨v, values, rfl⟩ := List.exists_cons_of_length_eq_add_one hlength.symm
      rw [List.forall_mem_cons] at h
      exact .present h.1 (ih (Nat.succ.inj hlength) h.2)

theorem wholeRecord?_zip {names : List String} {values : List Value} (hn : names.Nodup)
    (hlength : names.length = values.length) (h : ∀ v ∈ values, v.IsGrammatical) :
    wholeRecord? names (.ofFields (names.zip values)) = some values := by
  rw [wholeRecord?, (isRecord_zip hlength h).recordFields? hn, Option.bind_some]
  exact mapM_map_eq_some fun _ _ => rfl

end Whole

/-- What a record of texts is written as: a string under each name. -/
def ofTexts (names texts : List String) : Value :=
  .ofFields (names.zip (texts.map .ofString))

section Texts

theorem isGrammatical_ofString (s : String) : (Value.ofString s).IsGrammatical :=
  .scalar (by simp)

@[simp] theorem text?_ofString (s : String) : text? (.ofString s) = some s := rfl

@[simp] theorem tag?_ofString (name : String) : tag? name (.ofString name) = some () := by
  simp [tag?, Value.ofString]

/-- A text as a string. -/
theorem isCodec_ofString : IsCodec (fun _ => True) Value.ofString text? where
  isGrammatical := isGrammatical_ofString
  ne_null s := by simp [Value.ofString]
  decode_encode s _ := text?_ofString s

/-- What is made of some texts, as the record of these texts. -/
theorem isCodec_ofTexts (names : List String) (texts : α → List String)
    (build : List Value → Option α) (hn : names.Nodup)
    (hlength : ∀ a, names.length = (texts a).length)
    (hbuild : ∀ a, build ((texts a).map .ofString) = some a) :
    IsCodec (fun _ => True) (fun a => ofTexts names (texts a))
      (fun v => (wholeRecord? names v).bind build) := by
  have hlengths : ∀ a, names.length = ((texts a).map Value.ofString).length := by
    intro a
    rw [List.length_map, hlength a]
  have hstrings : ∀ a, ∀ v ∈ (texts a).map Value.ofString, v.IsGrammatical := by
    intro a v hv
    obtain ⟨s, -, rfl⟩ := List.mem_map.mp hv
    exact isGrammatical_ofString s
  exact {
    isGrammatical := fun a => (isRecord_zip (hlengths a) (hstrings a)).isGrammatical
    ne_null := fun a => by simp [ofTexts, Value.ofFields]
    decode_encode := fun a _ => by
      simp only [ofTexts, wholeRecord?_zip hn (hlengths a) (hstrings a), Option.bind_some, hbuild] }

/-- A text as a record with one field. -/
theorem isCodec_oneText (name : String) :
    IsCodec (fun _ => True) (fun s => .ofFields [(name, .ofString s)]) (oneText? name) :=
  isCodec_ofTexts [name] (fun s => [s]) _ (by simp) (fun _ => rfl) (fun _ => rfl)

/-- A text as a record with that text and a tag. -/
theorem isCodec_tagged (name tagName tag : String) (hn : [name, tagName].Nodup) :
    IsCodec (fun _ => True)
      (fun s => .ofFields [(name, .ofString s), (tagName, .ofString tag)])
      (tagged? name tagName tag) :=
  isCodec_ofTexts [name, tagName] (fun s => [s, tag]) _ hn (fun _ => rfl)
    fun s => by simp

end Texts

/-- One value after the other is read. -/
theorem bind_of_eq_some {β : Type} {o : Option α} {f : α → Option β} {a : α} {b : β}
    (ho : o = some a) (hf : f a = some b) : o.bind f = some b :=
  Option.bind_eq_some_iff.mpr ⟨a, ho, hf⟩

section Places

variable {Valid : α → Prop} {encode : α → Value} {decode : Value → Option α}
  (c : IsCodec Valid encode decode)

/-- The value of a repeated field, if it has one. -/
def repeatedValue (encode : α → Value) : List α → Option Value
  | [] => none
  | as => some (.array (as.map encode))

include c

theorem IsCodec.optional? {a? : Option α} (h : ∀ a ∈ a?, Valid a) :
    optional? decode (a?.map encode) = some a? := by
  cases a? with
  | none => rfl
  | some a =>
      rw [Option.map_some, Json.optional?, c.decode_encode a (h a rfl), Option.map_some]
      exact c.ne_null a

theorem IsCodec.list? {as : List α} (h : ∀ a ∈ as, Valid a) :
    list? decode (repeatedValue encode as) = some as := by
  cases as with
  | nil => rfl
  | cons a as => exact mapM_map_eq_some fun b hb => c.decode_encode b (h b hb)

variable {names : List String} {values : List (Option Value)} {fields : List (String × Value)}

theorem IsCodec.optionalField (name : String) (a? : Option α)
    (h : IsRecord names values fields) :
    IsRecord (name :: names) (a?.map encode :: values)
      (optionalField name encode a? ++ fields) := by
  cases a? with
  | none => exact .absent h
  | some a => exact .present (c.isGrammatical a) h

theorem IsCodec.repeatedField (name : String) (as : List α)
    (h : IsRecord names values fields) :
    IsRecord (name :: names) (repeatedValue encode as :: values)
      (repeatedField name encode as ++ fields) := by
  cases as with
  | nil => exact .absent h
  | cons a as =>
      refine .present (.array fun item hitem => ?_) h
      obtain ⟨b, -, rfl⟩ := List.mem_map.mp hitem
      exact c.isGrammatical b

end Places

section Any

variable {encode : α → Value} {decode : Value → Option α}
  (c : IsCodec (fun _ => True) encode decode)

include c

theorem IsCodec.optional?_any (a? : Option α) :
    Json.optional? decode (a?.map encode) = some a? :=
  c.optional? fun _ _ => trivial

theorem IsCodec.list?_any (as : List α) :
    Json.list? decode (repeatedValue encode as) = some as :=
  c.list? fun _ _ => trivial

end Any

section Mark

/-- The value of a mark, if it has one. -/
def markValue (b : Bool) : Option Value := if b then some (.scalar (.bool true)) else none

theorem flag?_markValue (b : Bool) : flag? (markValue b) = some b := by
  cases b <;> rfl

theorem isRecord_mark (name : String) (b : Bool) :
    IsRecord [name] [markValue b] (if b then [(name, .scalar (.bool true))] else []) := by
  cases b with
  | false => exact .absent .nil
  | true => exact .present (.scalar (by simp)) .nil

end Mark

end MetadataHarvest.Json
