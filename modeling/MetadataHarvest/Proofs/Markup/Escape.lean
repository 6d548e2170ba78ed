import MetadataHarvest.Markup.Printer
import MetadataHarvest.Markup.Token
import MetadataHarvest.Proofs.Text.Scan
import Mathlib.Data.List.TakeWhile

/-!
# Escaped text is read back

A text is recovered from its written form by replacing the references, and the white space at
its two ends is the same in both forms. So it makes no difference whether outer white space is
dropped before references are replaced or after.
-/

namespace MetadataHarvest.Markup

open MetadataHarvest.Text

/-- How a character is written: as a reference whose name is made of letters, or as it is. -/
theorem escapeChar_cases (c : Char) :
    (∃ name, escapeChar c = '&' :: (name ++ [';']) ∧ name.all Char.isAlpha = true ∧
      Reference.char? name = some c) ∨
      (escapeChar c = [c] ∧ c ≠ '&' ∧ c ≠ '<' ∧ c ≠ '>' ∧ c ≠ '"' ∧ c ≠ '\'') := by
  unfold escapeChar
  split
  · next h => exact .inl ⟨"amp".toList, by subst h; decide⟩
  split
  · next h => exact .inl ⟨"lt".toList, by subst h; decide⟩
  split
  · next h => exact .inl ⟨"gt".toList, by subst h; decide⟩
  split
  · next h => exact .inl ⟨"quot".toList, by subst h; decide⟩
  split
  · next h => exact .inl ⟨"apos".toList, by subst h; decide⟩
  · next h₁ h₂ h₃ h₄ h₅ => exact .inr ⟨rfl, h₁, h₂, h₃, h₄, h₅⟩

theorem unescape?_cons {c : Char} (h : c ≠ '&') (cs : List Char) :
    unescape? (c :: cs) = (unescape? cs).map (c :: ·) := by
  rw [unescape?, if_neg h]

/-- Whether characters can stand between an ampersand and a semicolon. -/
def IsReferenceName (name : List Char) : Prop := ∀ d ∈ name, (d ≠ '&' && d ≠ ';') = true

theorem isReferenceName_of_isAlpha {name : List Char} (h : ∀ d ∈ name, d.isAlpha = true) :
    IsReferenceName name := by
  intro d hd
  have halpha := h d hd
  rw [Bool.and_eq_true, decide_eq_true_eq, decide_eq_true_eq]
  constructor <;> rintro rfl <;> exact absurd halpha (by decide)

/-- A reference ends at the semicolon after its name. -/
theorem unescape?_reference {name rest : List Char} {c : Char} (hname : IsReferenceName name)
    (hchar : Reference.char? name = some c) :
    unescape? ('&' :: (name ++ ';' :: rest)) = (unescape? rest).map (c :: ·) := by
  have hrest : ∀ d ∈ (';' :: rest).head?, (d ≠ '&' && d ≠ ';') = false := by simp
  have htake := takeWhile_append_of_head? hname hrest
  have hdrop := dropWhile_append_of_head? hname hrest
  rw [unescape?, if_pos rfl]
  dsimp only
  split
  · next after hafter =>
      obtain rfl : rest = after := (List.cons.inj (hdrop.symm.trans hafter)).2
      rw [htake, hchar]
      cases unescape? rest <;> rfl
  · next hnone => exact absurd hdrop (hnone rest)

/-- What begins with an ampersand and can be read begins with a reference. -/
theorem exists_of_unescape?_reference {cs as : List Char} (h : unescape? ('&' :: cs) = some as) :
    ∃ name c rest bs, cs = name ++ ';' :: rest ∧ IsReferenceName name ∧
      Reference.char? name = some c ∧ unescape? rest = some bs ∧ as = c :: bs := by
  rw [unescape?, if_pos rfl] at h
  dsimp only at h
  split at h
  · next rest hrest =>
      simp only [bind, Option.bind_eq_some_iff] at h
      obtain ⟨c, hc, bs, hbs, h⟩ := h
      have hname : IsReferenceName (cs.takeWhile fun d => d ≠ '&' && d ≠ ';') :=
        fun d hd => List.mem_takeWhile_imp (p := fun d => d ≠ '&' && d ≠ ';') hd
      refine ⟨_, c, rest, bs, ?_, hname, hc, hbs, (Option.some.inj h).symm⟩
      rw [← hrest, List.takeWhile_append_dropWhile]
  · cases h

/-- Replacing the references of a written text gives the text. -/
theorem unescape?_escape (cs : List Char) : unescape? (escape cs) = some cs := by
  induction cs with
  | nil => exact unescape?_nil
  | cons c cs ih =>
      rw [escape_cons]
      rcases escapeChar_cases c with ⟨name, hwritten, hname, hchar⟩ | ⟨hwritten, hne, -⟩
      · rw [hwritten, List.cons_append, List.append_assoc, List.singleton_append,
          unescape?_reference (isReferenceName_of_isAlpha (List.all_eq_true.mp hname)) hchar, ih]
        rfl
      · rw [hwritten, List.singleton_append, unescape?_cons hne, ih]
        rfl

theorem escape_eq_nil_iff {cs : List Char} : escape cs = [] ↔ cs = [] := by
  constructor
  · intro h
    have hread := unescape?_escape cs
    rw [h, unescape?_nil] at hread
    exact (Option.some.inj hread).symm
  · rintro rfl
    rfl

/-- A written text has no quotation mark. -/
theorem quote_not_mem_escape (cs : List Char) : '"' ∉ escape cs := by
  induction cs with
  | nil => simp
  | cons c cs ih =>
      rw [escape_cons, List.mem_append, not_or]
      refine ⟨fun hmem => ?_, ih⟩
      rcases escapeChar_cases c with ⟨name, hwritten, hname, -⟩ | ⟨hwritten, -, -, -, hne, -⟩
      · rw [hwritten] at hmem
        have hquote : '"' ∈ name := by simpa using hmem
        exact absurd (List.all_eq_true.mp hname _ hquote) (by decide)
      · rw [hwritten, List.mem_singleton] at hmem
        exact hne hmem.symm

section Append

/-- Two texts that can be read can be read together. -/
theorem unescape?_append {cs ds as bs : List Char} (h : unescape? cs = some as)
    (h' : unescape? ds = some bs) : unescape? (cs ++ ds) = some (as ++ bs) := by
  match cs with
  | [] =>
      rw [unescape?_nil] at h
      obtain rfl := Option.some.inj h
      exact h'
  | c :: cs =>
      by_cases hc : c = '&'
      · subst hc
        obtain ⟨name, d, rest, more, rfl, hname, hd, hrest, rfl⟩ := exists_of_unescape?_reference h
        have hall := unescape?_append hrest h'
        rw [List.cons_append, List.append_assoc, List.cons_append, unescape?_reference hname hd,
          hall]
        rfl
      · rw [unescape?_cons hc] at h
        obtain ⟨more, hmore, rfl⟩ := Option.map_eq_some_iff.mp h
        have hall := unescape?_append hmore h'
        rw [List.cons_append, unescape?_cons hc, hall]
        rfl
termination_by cs.length

/-- White space is read as it is, and what follows it is read as it is alone. -/
theorem unescape?_white_append {space : List Char} (h : ∀ c ∈ space, isSpace c = true)
    (cs : List Char) : unescape? (space ++ cs) = (unescape? cs).map (space ++ ·) := by
  induction space with
  | nil => simp
  | cons c space ih =>
      rw [List.forall_mem_cons] at h
      have hc : c ≠ '&' := by
        rintro rfl
        exact absurd h.1 (by decide)
      rw [List.cons_append, unescape?_cons hc, ih h.2, Option.map_map]
      rfl

theorem unescape?_white {space : List Char} (h : ∀ c ∈ space, isSpace c = true) :
    unescape? space = some space := by
  have hread := unescape?_white_append h []
  rwa [List.append_nil, unescape?_nil, Option.map_some, List.append_nil] at hread

/-- White space at the end belongs to no reference. -/
theorem exists_of_unescape?_append_white {cs space as : List Char}
    (hspace : ∀ c ∈ space, isSpace c = true) (h : unescape? (cs ++ space) = some as) :
    ∃ bs, unescape? cs = some bs ∧ as = bs ++ space := by
  match cs with
  | [] =>
      rw [List.nil_append, unescape?_white hspace] at h
      exact ⟨[], unescape?_nil, (Option.some.inj h).symm⟩
  | c :: cs =>
      rw [List.cons_append] at h
      by_cases hc : c = '&'
      · subst hc
        obtain ⟨name, d, rest, more, hsplit, hname, hd, hrest, rfl⟩ :=
          exists_of_unescape?_reference h
        have hsemicolon : ';' ∉ space := fun hmem => absurd (hspace _ hmem) (by decide)
        rcases List.append_eq_append_iff.mp hsplit with ⟨tail, rfl, htail⟩ | ⟨tail, rfl, htail⟩
        · rw [htail] at hsemicolon
          exact absurd (by simp) hsemicolon
        · cases tail with
          | nil =>
              rw [List.nil_append] at htail
              rw [← htail] at hsemicolon
              exact absurd List.mem_cons_self hsemicolon
          | cons e tail =>
              obtain ⟨rfl, rfl⟩ := List.cons.inj htail
              obtain ⟨bs, hbs, rfl⟩ := exists_of_unescape?_append_white hspace hrest
              refine ⟨d :: bs, ?_, rfl⟩
              rw [unescape?_reference hname hd, hbs]
              rfl
      · rw [unescape?_cons hc] at h
        obtain ⟨more, hmore, rfl⟩ := Option.map_eq_some_iff.mp h
        obtain ⟨bs, hbs, rfl⟩ := exists_of_unescape?_append_white hspace hmore
        refine ⟨c :: bs, ?_, rfl⟩
        rw [unescape?_cons hc, hbs]
        rfl
termination_by cs.length

end Append

section White

/-- The white space of markup is blank. -/
theorem isBlank_of_isSpace {c : Char} (h : isSpace c = true) : isBlank c = true := by
  simp only [isSpace, Bool.or_eq_true, beq_iff_eq] at h
  rcases h with ((rfl | rfl) | rfl) | rfl <;> decide

theorem escapeChar_of_isSpace {c : Char} (h : isSpace c = true) : escapeChar c = [c] := by
  simp only [isSpace, Bool.or_eq_true, beq_iff_eq] at h
  rcases h with ((rfl | rfl) | rfl) | rfl <;> decide

/-- A character that is no white space is written without white space at its two ends. -/
theorem escapeChar_of_not_isSpace {c : Char} (h : isSpace c = false) :
    (∃ d ds, escapeChar c = d :: ds ∧ isSpace d = false) ∧
      ∃ d ds, (escapeChar c).reverse = d :: ds ∧ isSpace d = false := by
  rcases escapeChar_cases c with ⟨name, hwritten, -⟩ | ⟨hwritten, -⟩
  · rw [hwritten]
    exact ⟨⟨'&', _, rfl, rfl⟩, ';', name.reverse ++ ['&'], by simp, rfl⟩
  · rw [hwritten]
    exact ⟨⟨c, [], rfl, h⟩, c, [], rfl, h⟩

/-- Where `f` keeps the characters in `p` and begins with none of them for others, they can be
dropped before or after it. -/
theorem dropWhile_flatMap {p : Char → Bool} {f : Char → List Char}
    (hkept : ∀ c, p c = true → f c = [c])
    (hother : ∀ c, p c = false → ∃ d ds, f c = d :: ds ∧ p d = false) (cs : List Char) :
    (cs.flatMap f).dropWhile p = (cs.dropWhile p).flatMap f := by
  induction cs with
  | nil => rfl
  | cons c cs ih =>
      rw [List.flatMap_cons]
      cases hc : p c with
      | true => simp [hkept c hc, hc, ih]
      | false =>
          obtain ⟨d, ds, hf, hd⟩ := hother c hc
          simp [hf, hc, hd]

/-- Outer white space is that of the text. -/
theorem trimSpace_escape (cs : List Char) : trimSpace (escape cs) = escape (trimSpace cs) := by
  have hfront : (escape cs).dropWhile isSpace = escape (cs.dropWhile isSpace) :=
    dropWhile_flatMap (fun _ => escapeChar_of_isSpace)
      (fun _ h => (escapeChar_of_not_isSpace h).1) cs
  have hback : ∀ ds, dropWhileEnd isSpace (escape ds) = escape (dropWhileEnd isSpace ds) := by
    intro ds
    have hreverse := dropWhile_flatMap (f := List.reverse ∘ escapeChar) (p := isSpace)
      (fun c h => by rw [Function.comp, escapeChar_of_isSpace h]; rfl)
      (fun _ h => (escapeChar_of_not_isSpace h).2) ds.reverse
    rw [dropWhileEnd, dropWhileEnd, escape, escape, List.reverse_flatMap, hreverse]
    simp [List.reverse_flatMap, Function.comp_def]
  rw [trimSpace, trimSpace, trimWhile, trimWhile, hfront, hback]

end White

end MetadataHarvest.Markup
