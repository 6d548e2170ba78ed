import MetadataHarvest.Text.Blank
import Mathlib.Data.List.DropRight

/-!
# Trimming is idempotent

A trimmed text begins and ends with no blank, so that trimming it again changes nothing.
A value that is kept without its outer blanks is therefore kept as it is when it is set
once more.
-/

namespace MetadataHarvest.Text

theorem dropWhileEnd_eq_rdropWhile (p : Char → Bool) (cs : List Char) :
    dropWhileEnd p cs = cs.rdropWhile p := rfl

/-- Cutting at the end leaves a list that begins with no character in `p` so. -/
theorem dropWhile_dropWhileEnd_dropWhile (p : Char → Bool) (cs : List Char) :
    (dropWhileEnd p (cs.dropWhile p)).dropWhile p = dropWhileEnd p (cs.dropWhile p) := by
  rw [List.dropWhile_eq_self_iff]
  intro hl
  have hpre : dropWhileEnd p (cs.dropWhile p) <+: cs.dropWhile p :=
    List.rdropWhile_prefix p (cs.dropWhile p)
  rw [hpre.getElem hl]
  exact List.dropWhile_get_zero_not p cs (hl.trans_le hpre.length_le)

theorem trimWhile_trimWhile (p : Char → Bool) (cs : List Char) :
    trimWhile p (trimWhile p cs) = trimWhile p cs := by
  rw [trimWhile, trimWhile, dropWhile_dropWhileEnd_dropWhile]
  simp only [dropWhileEnd_eq_rdropWhile, List.rdropWhile_idempotent]

/-- A text is what is left of it when it is trimmed, and the characters in `p` around that. -/
theorem exists_trimWhile (p : Char → Bool) (cs : List Char) :
    ∃ front back, (∀ c ∈ front, p c = true) ∧ (∀ c ∈ back, p c = true) ∧
      cs = front ++ (trimWhile p cs ++ back) := by
  refine ⟨cs.takeWhile p, (cs.dropWhile p).rtakeWhile p, fun c hc => List.mem_takeWhile_imp hc,
    fun c hc => List.mem_rtakeWhile_imp hc, ?_⟩
  rw [trimWhile, dropWhileEnd_eq_rdropWhile, List.rdropWhile_append_rtakeWhile,
    List.takeWhile_append_dropWhile]

@[simp] theorem trim_trim (cs : List Char) : trim (trim cs) = trim cs :=
  trimWhile_trimWhile isBlank cs

@[simp] theorem trimmed_trimmed (s : String) : trimmed (trimmed s) = trimmed s := by
  rw [trimmed, toList_trimmed, trim_trim, trimmed]

/-- A value is kept trimmed, and only when something is left. -/
theorem nonBlank?_eq_some_iff {s t : String} :
    nonBlank? s = some t ↔ trimmed s = t ∧ t ≠ "" := by
  unfold nonBlank?
  constructor
  · intro h
    split at h
    · exact absurd h (by simp)
    · next hne =>
        obtain rfl := Option.some.inj h
        exact ⟨rfl, fun he => hne (by rw [he]; rfl)⟩
  · rintro ⟨rfl, hne⟩
    rw [if_neg]
    intro he
    exact hne (String.isEmpty_iff.mp he)

theorem nonBlank?_of_shown {s : String} (h : trimmed s ≠ "") : nonBlank? s = some (trimmed s) :=
  nonBlank?_eq_some_iff.mpr ⟨rfl, h⟩

theorem nonBlank?_of_blank {s : String} (h : trimmed s = "") : nonBlank? s = none := by
  rw [nonBlank?, h]
  rfl

@[simp] theorem nonBlank?_trimmed (s : String) : nonBlank? (trimmed s) = nonBlank? s := by
  simp only [nonBlank?, trimmed_trimmed]

@[simp] theorem nonBlank?_empty : nonBlank? "" = none := by decide

/-- What is kept of a value has no outer blanks. -/
theorem trimmed_of_nonBlank? {s t : String} (h : nonBlank? s = some t) : trimmed t = t := by
  obtain ⟨rfl, -⟩ := nonBlank?_eq_some_iff.mp h
  exact trimmed_trimmed s

/-- What is kept of a value is kept again. -/
theorem nonBlank?_of_nonBlank? {s t : String} (h : nonBlank? s = some t) :
    nonBlank? t = some t :=
  nonBlank?_eq_some_iff.mpr ⟨trimmed_of_nonBlank? h, (nonBlank?_eq_some_iff.mp h).2⟩

end MetadataHarvest.Text
