import MetadataHarvest.Json.Reader
import MetadataHarvest.Proofs.Json.Literals
import MetadataHarvest.Proofs.Json.Strings

/-!
# Values read back

A value whose numbers keep to the grammar is read as it was written. What carries the induction
is that the text of a value, read where a value may begin, has the effect of that value, whatever
is open and whatever follows.
-/

namespace MetadataHarvest.Json

section Tokens

theorem tokens?_nil : tokens? [] = some [] := by
  rw [tokens?]

theorem tokens?_of_next? {c : Char} {cs rest : List Char} {t : Token} (hspace : isSpace c = false)
    (h : Token.next? c cs = some (t, rest)) :
    tokens? (c :: cs) = (tokens? rest).map (t :: ·) := by
  rw [tokens?]
  simp only [hspace, Bool.false_eq_true, if_false]
  split
  · next hnone =>
      rw [h] at hnone
      cases hnone
  · next hsome =>
      rw [h] at hsome
      cases hsome
      rfl

theorem afterWord?_append (word rest : List Char) : afterWord? word (word ++ rest) = some rest := by
  induction word with
  | nil => rfl
  | cons c word ih => simp [afterWord?, ih]

end Tokens

/-- A text that is empty or begins with what may follow a value. -/
def AtEnd (cs : List Char) : Prop := ∀ c ∈ cs.head?, c ∈ [',', ']', '\x7d']

theorem AtEnd.stops {cs : List Char} (h : AtEnd cs) :
    ∀ c ∈ cs.head?, continuesNumber c = false := by
  have marks : [',', ']', '\x7d'].all (!continuesNumber ·) = true := by decide
  intro c hc
  simpa using List.all_eq_true.mp marks c (h c hc)

namespace Value

/-- A value in which every number keeps to the grammar. -/
inductive IsGrammatical : Value → Prop
  | scalar {v : Scalar} (h : ∀ l, v = .number l → l.IsGrammatical) : IsGrammatical (.scalar v)
  | array {items : List Value} (h : ∀ item ∈ items, item.IsGrammatical) :
    IsGrammatical (.array items)
  | object {fields : List (Option String × Value)}
    (h : ∀ field ∈ fields, field.2.IsGrammatical) : IsGrammatical (.object fields)

end Value

/-- A scalar value is one token. -/
theorem Token.next?_scalar {v : Scalar} (h : ∀ l, v = .number l → l.IsGrammatical)
    {rest : List Char} (hrest : AtEnd rest) :
    ∃ c cs, v.written = c :: cs ∧ isSpace c = false
      ∧ next? c (cs ++ rest) = some (.scalar v, rest) := by
  cases v with
  | null =>
      refine ⟨'n', "ull".toList, rfl, by decide, ?_⟩
      simp only [next?, mark?, scalar?, afterWord?_append, Char.reduceEq, if_true, if_false]
      rfl
  | bool b =>
      cases b with
      | true =>
          refine ⟨'t', "rue".toList, rfl, by decide, ?_⟩
          simp only [next?, mark?, scalar?, afterWord?_append, Char.reduceEq, if_true, if_false]
          rfl
      | false =>
          refine ⟨'f', "alse".toList, rfl, by decide, ?_⟩
          simp only [next?, mark?, scalar?, afterWord?_append, Char.reduceEq, if_true, if_false]
          rfl
  | number l => exact next?_literal (h l rfl) hrest.stops
  | string text =>
      obtain ⟨cs, hcs, hnext⟩ := next?_writtenString text rest
      exact ⟨'"', cs, hcs, by decide, hnext⟩

namespace Progress

/-- The progress after all the tokens of a text. -/
def read? (p : Progress) (cs : List Char) : Option Progress :=
  (tokens? cs).bind fun tokens => tokens.foldlM step? p

theorem read?_nil (p : Progress) : p.read? [] = some p := by
  rw [read?, tokens?_nil]
  rfl

theorem read?_of_next? (p : Progress) {c : Char} {cs rest : List Char} {t : Token}
    (hspace : isSpace c = false) (h : Token.next? c cs = some (t, rest)) :
    p.read? (c :: cs) = (p.step? t).bind fun q => q.read? rest := by
  simp only [read?, tokens?_of_next? hspace h]
  cases tokens? rest with
  | none => cases p.step? t <;> rfl
  | some tokens => rfl

/-- A bracket or separator is a token of its own. -/
theorem read?_mark (p : Progress) {c : Char} {t : Token} (hspace : isSpace c = false)
    (h : Token.mark? c = some t) (cs : List Char) :
    p.read? (c :: cs) = (p.step? t).bind fun q => q.read? cs :=
  read?_of_next? p hspace (by rw [Token.next?, h])

theorem read?_scalar (p : Progress) {v : Scalar} (h : ∀ l, v = .number l → l.IsGrammatical)
    {rest : List Char} (hrest : AtEnd rest) :
    p.read? (v.written ++ rest) = (p.step? (.scalar v)).bind fun q => q.read? rest := by
  obtain ⟨c, cs, hw, hspace, hnext⟩ := Token.next?_scalar h hrest
  rw [hw, List.cons_append, read?_of_next? p hspace hnext]

/-- A key and its colon, where a key may come. -/
theorem read?_key (p : Progress) (text : Option String) (rest : List Char) :
    p.read? (writtenString text ++ rest)
      = (p.step? (.scalar (.string text))).bind fun q => q.read? rest := by
  obtain ⟨cs, hw, hnext⟩ := Token.next?_writtenString text rest
  rw [hw, List.cons_append, read?_of_next? p (by decide) hnext]

/-- Where a value may begin, with these arrays and objects open. The end of an array may also
come where its first item may begin. -/
def ExpectsValue (p : Progress) (outer : List Frame) : Prop :=
  ∀ t, t ≠ .endArray → p.step? t = begin? outer t

theorem expectsValue_nextValue (outer : List Frame) : (nextValue outer).ExpectsValue outer :=
  fun _ _ => rfl

theorem expectsValue_firstItem (outer : List Frame) :
    (firstItem outer).ExpectsValue (.array [] :: outer) := by
  intro t ht
  cases t with
  | endArray => exact absurd rfl ht
  | _ => rfl

/-- Where a key may begin, after these fields of an object. -/
def ExpectsKey (p : Progress) (fields : List (Option String × Value)) (outer : List Frame) :
    Prop :=
  ∀ text, p.step? (.scalar (.string text)) = some (colon fields text outer)

end Progress

open Progress

namespace Value

/-- A value is read as it was written, wherever it may stand. -/
def IsRead (v : Value) : Prop :=
  ∀ ⦃p : Progress⦄ ⦃outer : List Frame⦄ ⦃rest : List Char⦄, p.ExpectsValue outer → AtEnd rest →
    p.read? (v.written ++ rest) = (push v outer).read? rest

/-- The items of an array, read one after the other. -/
theorem read?_items {items : List Value} (h : ∀ item ∈ items, item.IsRead) (hne : items ≠ [])
    {p : Progress} {done : List Value} {outer : List Frame}
    (hp : p.ExpectsValue (.array done :: outer)) (rest : List Char) :
    p.read? (writtenItems items ++ ']' :: rest)
      = (push (.array (done.reverse ++ items)) outer).read? rest := by
  induction items generalizing p done with
  | nil => exact absurd rfl hne
  | cons item items ih =>
      have hitem := h item List.mem_cons_self
      cases items with
      | nil =>
          rw [writtenItems, hitem hp (by simp [AtEnd]), push,
            read?_mark _ (t := .endArray) (by decide) (by decide)]
          simp [step?]
      | cons next items =>
          rw [writtenItems, List.append_assoc, List.cons_append,
            hitem hp (by simp [AtEnd]), push, read?_mark _ (t := .comma) (by decide) (by decide)]
          have hnext := ih (fun i hi => h i (List.mem_cons_of_mem _ hi)) (List.cons_ne_nil _ _)
            (expectsValue_nextValue (.array (item :: done) :: outer))
          · simpa [step?] using hnext
          · simp

/-- The fields of an object, read one after the other. -/
theorem read?_fields {fields : List (Option String × Value)}
    (h : ∀ field ∈ fields, field.2.IsRead) (hne : fields ≠ []) {p : Progress}
    {done : List (Option String × Value)} {outer : List Frame} (hp : p.ExpectsKey done outer)
    (rest : List Char) :
    p.read? (writtenFields fields ++ '\x7d' :: rest)
      = (push (.object (done.reverse ++ fields)) outer).read? rest := by
  induction fields generalizing p done with
  | nil => exact absurd rfl hne
  | cons field fields ih =>
      obtain ⟨key, value⟩ := field
      have hvalue := h _ List.mem_cons_self
      have hkey : ∀ {cs}, AtEnd cs → p.read? (writtenString key ++ ':' :: (value.written ++ cs))
          = (afterField ((key, value) :: done) outer).read? cs := by
        intro cs hcs
        rw [read?_key, hp, Option.bind_some, read?_mark _ (t := .colon) (by decide) (by decide)]
        exact hvalue (expectsValue_nextValue _) hcs
      cases fields with
      | nil =>
          rw [writtenFields, List.append_assoc, List.cons_append, hkey (by simp [AtEnd]),
            read?_mark _ (t := .endObject) (by decide) (by decide)]
          simp [step?]
      | cons next fields =>
          rw [writtenFields, List.append_assoc, List.append_assoc, List.cons_append,
            List.cons_append, hkey (by simp [AtEnd]),
            read?_mark _ (t := .comma) (by decide) (by decide)]
          have hnext := ih (fun i hi => h i (List.mem_cons_of_mem _ hi)) (List.cons_ne_nil _ _)
            (p := nextKey ((key, value) :: done) outer) (fun _ => rfl)
          · simpa [step?] using hnext
          · simp

/-- A value whose numbers keep to the grammar is read as it was written. -/
theorem IsGrammatical.isRead {v : Value} (h : v.IsGrammatical) : v.IsRead := by
  induction h with
  | scalar h =>
      intro p outer rest hp hrest
      rw [written, read?_scalar p h hrest, hp _ (by simp)]
      rfl
  | @array items _ ih =>
      intro p outer rest hp hrest
      rw [written, List.append_assoc, List.cons_append, List.singleton_append,
        read?_mark p (t := .beginArray) (by decide) (by decide), hp _ (by simp), begin?,
        Option.bind_some]
      cases items with
      | nil =>
          rw [writtenItems, List.nil_append, read?_mark _ (t := .endArray) (by decide) (by decide)]
          rfl
      | cons item items =>
          exact read?_items ih (List.cons_ne_nil _ _) (expectsValue_firstItem outer) rest
  | @object fields _ ih =>
      intro p outer rest hp hrest
      rw [written, List.append_assoc, List.cons_append, List.singleton_append,
        read?_mark p (t := .beginObject) (by decide) (by decide), hp _ (by simp), begin?,
        Option.bind_some]
      cases fields with
      | nil =>
          rw [writtenFields, List.nil_append,
            read?_mark _ (t := .endObject) (by decide) (by decide)]
          rfl
      | cons field fields =>
          exact read?_fields ih (List.cons_ne_nil _ _) (p := firstKey outer) (fun _ => rfl) rest

/-- Reading the text of a value gives the value. -/
theorem read?_text {v : Value} (h : v.IsGrammatical) : read? v.text = some v := by
  have hread : (nextValue []).read? v.written = some (complete v) := by
    have hend : AtEnd [] := by simp [AtEnd]
    have := h.isRead (expectsValue_nextValue []) hend
    rwa [List.append_nil, push, read?_nil] at this
  calc read? v.text
      = ((nextValue []).read? v.written).bind finish? := by
        simp only [read?, text, String.toList_ofList, Progress.read?, Option.bind_eq_bind,
          Option.bind_assoc]
    _ = some v := by rw [hread]; rfl

section Control

theorem mem_writtenItems {items : List Value} {c : Char} (h : c ∈ writtenItems items) :
    c = ',' ∨ ∃ item ∈ items, c ∈ item.written := by
  induction items with
  | nil => cases h
  | cons item items ih =>
      cases items with
      | nil => exact .inr ⟨item, List.mem_cons_self, h⟩
      | cons next items =>
          rw [writtenItems, List.mem_append, List.mem_cons] at h
          · rcases h with h | h | h
            · exact .inr ⟨item, List.mem_cons_self, h⟩
            · exact .inl h
            · rcases ih h with h | ⟨i, hi, h⟩
              · exact .inl h
              · exact .inr ⟨i, List.mem_cons_of_mem _ hi, h⟩
          · simp

theorem mem_writtenFields {fields : List (Option String × Value)} {c : Char}
    (h : c ∈ writtenFields fields) :
    c = ',' ∨ c = ':' ∨ ∃ field ∈ fields, c ∈ writtenString field.1 ∨ c ∈ field.2.written := by
  induction fields with
  | nil => cases h
  | cons field fields ih =>
      obtain ⟨key, value⟩ := field
      have hfield : c ∈ writtenString key ++ ':' :: value.written → c = ':'
          ∨ ∃ field ∈ (key, value) :: fields, c ∈ writtenString field.1 ∨ c ∈ field.2.written := by
        intro h
        rcases List.mem_append.mp h with h | h
        · exact .inr ⟨_, List.mem_cons_self, .inl h⟩
        · rcases List.mem_cons.mp h with h | h
          · exact .inl h
          · exact .inr ⟨_, List.mem_cons_self, .inr h⟩
      cases fields with
      | nil => exact .inr (hfield h)
      | cons next fields =>
          rw [writtenFields, List.mem_append, List.mem_cons] at h
          · rcases h with h | h | h
            · exact .inr (hfield h)
            · exact .inl h
            · rcases ih h with h | h | ⟨f, hf, h⟩
              · exact .inl h
              · exact .inr (.inl h)
              · exact .inr (.inr ⟨f, List.mem_cons_of_mem _ hf, h⟩)
          · simp

/-- The text of a value whose numbers keep to the grammar has no control characters. -/
theorem IsGrammatical.le_toNat {v : Value} (h : v.IsGrammatical) {c : Char}
    (hc : c ∈ v.written) : 0x20 ≤ c.toNat := by
  induction h with
  | @scalar v h =>
      cases v with
      | null =>
          have word : Scalar.null.written.all (0x20 ≤ ·.toNat) = true := by decide
          exact of_decide_eq_true (List.all_eq_true.mp word c hc)
      | bool b =>
          have word : (Scalar.bool b).written.all (0x20 ≤ ·.toNat) = true := by cases b <;> decide
          exact of_decide_eq_true (List.all_eq_true.mp word c hc)
      | number l => exact (h l rfl).le_toNat hc
      | string text => exact le_toNat_of_mem_writtenString hc
  | array _ ih =>
      rw [written, List.mem_append, List.mem_cons, List.mem_singleton] at hc
      rcases hc with (rfl | hc) | rfl
      · decide
      · rcases mem_writtenItems hc with rfl | ⟨item, hitem, hc⟩
        · decide
        · exact ih item hitem hc
      · decide
  | object _ ih =>
      rw [written, List.mem_append, List.mem_cons, List.mem_singleton] at hc
      rcases hc with (rfl | hc) | rfl
      · decide
      · rcases mem_writtenFields hc with rfl | rfl | ⟨field, hfield, hc | hc⟩
        · decide
        · decide
        · exact le_toNat_of_mem_writtenString hc
        · exact ih field hfield hc
      · decide

end Control

end Value

end MetadataHarvest.Json
