import MetadataHarvest.Calendar.Pattern
import MetadataHarvest.Proofs.Number.Digits
import MetadataHarvest.Proofs.Text.Scan
import Mathlib.Data.List.TakeWhile

/-!
# The numbers in a date

Numbers of a date are runs of digits, of a fixed width or of at most some width. A reader that
gives a number has taken a run with this value from the front, and a number that was written with
as many digits as a reader takes is read back, whatever follows it.
-/

namespace MetadataHarvest.Calendar

open Number Text

/-- A run of digits with this value. -/
structure IsNumeral (ds : List Char) (n : Nat) : Prop where
  nonempty : ds ≠ []
  isDigit : ∀ c ∈ ds, isDigit c = true
  value : ofDigits ds = n

variable {ds cs rest : List Char} {n most width : Nat} {c : Char}

theorem isBlank_of_isDigit (h : isDigit c = true) : isBlank c = false := by
  obtain ⟨hlow, hhigh⟩ := isDigit_iff.mp h
  simp [isBlank]
  omega

section Padded

theorem ofDigits_replicate_append (k : Nat) (ds : List Char) :
    ofDigits (List.replicate k '0' ++ ds) = ofDigits ds := by
  induction k with
  | zero => rfl
  | succ k ih => exact ih

theorem length_padded (hwidth : 0 < width) (h : n < Nat.pow 10 width) :
    (Date.padded width n).length = width := by
  have hlength := (Nat.length_toDigits_le_iff (by decide) hwidth).mpr h
  rw [Date.padded, List.length_append, List.length_replicate]
  omega

theorem isNumeral_padded (width n : Nat) : IsNumeral (Date.padded width n) n where
  nonempty := List.append_ne_nil_of_right_ne_nil _ Nat.toDigits_ne_nil
  isDigit c hc := by
    rcases List.mem_append.mp hc with hc | hc
    · rw [List.eq_of_mem_replicate hc]
      decide
    · exact isDigit_of_mem_toDigits hc
  value := by rw [Date.padded, ofDigits_replicate_append, ofDigits_toDigits]

end Padded

section Readers

/-- A reader that gives a number has taken its digits from the front, and no more than it may. -/
theorem exists_of_takeNumber (h : takeNumber most cs = some (n, rest)) :
    ∃ ds, IsNumeral ds n ∧ ds.length ≤ most ∧ ds ++ rest = cs := by
  unfold takeNumber at h
  dsimp only at h
  split at h
  · cases h
  · next hne =>
      cases h
      refine ⟨_, ⟨by simpa using hne, fun c hc => List.mem_takeWhile_imp hc, rfl⟩, ?_, ?_⟩
      · exact (List.takeWhile_prefix _).length_le.trans (List.length_take_le _ _)
      · have hprefix : (cs.take most).takeWhile isDigit <+: cs :=
          (List.takeWhile_prefix _).trans (List.take_prefix _ _)
        exact List.prefix_iff_eq_append.mp hprefix

theorem isNumeral_of_takeNumber (h : takeNumber most cs = some (n, rest)) :
    ∃ ds, IsNumeral ds n ∧ ds ++ rest = cs := by
  obtain ⟨ds, hds, -, hsplit⟩ := exists_of_takeNumber h
  exact ⟨ds, hds, hsplit⟩

theorem exists_of_fixed? (hwidth : 0 < width)
    (h : Timestamp.fixed? width cs = some (n, rest)) :
    ∃ ds, IsNumeral ds n ∧ ds.length = width ∧ ds ++ rest = cs := by
  unfold Timestamp.fixed? at h
  dsimp only at h
  split at h
  · next hdigits =>
      cases h
      simp only [Bool.and_eq_true, decide_eq_true_eq, List.all_eq_true] at hdigits
      refine ⟨_, ⟨?_, hdigits.2, rfl⟩, hdigits.1, List.take_append_drop _ _⟩
      rw [← List.length_pos_iff, hdigits.1]
      exact hwidth
  · cases h

theorem isNumeral_of_fixed? (hwidth : 0 < width)
    (h : Timestamp.fixed? width cs = some (n, rest)) : ∃ ds, IsNumeral ds n ∧ ds ++ rest = cs := by
  obtain ⟨ds, hds, -, hsplit⟩ := exists_of_fixed? hwidth h
  exact ⟨ds, hds, hsplit⟩

theorem takeNumber_append (h : IsNumeral ds n) (rest : List Char) :
    takeNumber ds.length (ds ++ rest) = some (n, rest) := by
  have htaken : ds.takeWhile isDigit = ds := List.takeWhile_eq_self_iff.mpr h.isDigit
  rw [takeNumber, List.take_left, htaken]
  simp [h.nonempty, h.value]

/-- The marks between the parts of a date and a time are no digits. -/
theorem isDigit_of_mark (mark : Char) (h : isDigit mark = false) (rest : List Char) :
    ∀ c ∈ (mark :: rest).head?, isDigit c = false := by
  rintro c ⟨⟩
  exact h

/-- A number is read as far as its digits go, when a reader may take as many. -/
theorem takeNumber_append_of_le (h : IsNumeral ds n) (hmost : ds.length ≤ most)
    (hrest : ∀ c ∈ rest.head?, isDigit c = false) :
    takeNumber most (ds ++ rest) = some (n, rest) := by
  have hfew : ∀ c ∈ (rest.take (most - ds.length)).head?, isDigit c = false := by
    intro c hc
    rw [List.head?_take] at hc
    split at hc
    · cases hc
    · exact hrest c hc
  have htaken : ((ds ++ rest).take most).takeWhile isDigit = ds := by
    rw [List.take_append, List.take_of_length_le hmost]
    exact takeWhile_append_of_head? h.isDigit hfew
  rw [takeNumber, htaken]
  simp [h.nonempty, h.value]

theorem fixed?_append (h : IsNumeral ds n) (rest : List Char) :
    Timestamp.fixed? ds.length (ds ++ rest) = some (n, rest) := by
  have hall : ds.all isDigit = true := List.all_eq_true.mpr h.isDigit
  rw [Timestamp.fixed?, List.take_left, List.drop_left, hall]
  simp [h.value]

/-- A number starts with a digit. -/
theorem append_ne_cons (h : IsNumeral ds n) (hc : isDigit c = false) (rest back : List Char) :
    ds ++ rest ≠ c :: back := by
  obtain ⟨d, ds, rfl⟩ := List.exists_cons_of_ne_nil h.nonempty
  rintro ⟨⟩
  rw [h.isDigit c List.mem_cons_self] at hc
  cases hc

/-- No blank stands before a number. -/
theorem dropWhile_isBlank_append (h : IsNumeral ds n) (rest : List Char) :
    (ds ++ rest).dropWhile isBlank = ds ++ rest := by
  obtain ⟨c, ds, rfl⟩ := List.exists_cons_of_ne_nil h.nonempty
  rw [List.cons_append, List.dropWhile_cons_of_neg]
  rw [isBlank_of_isDigit (h.isDigit c List.mem_cons_self)]
  exact Bool.false_ne_true

theorem lenientYear?_minus (rest : List Char) :
    Lenient.year? ('-' :: rest) =
      (takeNumber rest.length rest).map fun (n, after) => (-(n : Int), after) := rfl

theorem lenientYear?_plus (rest : List Char) :
    Lenient.year? ('+' :: rest) =
      (takeNumber rest.length rest).map fun (n, after) => ((n : Int), after) := rfl

theorem field?_padded {greatest : Nat} (hn : n ≤ greatest) (hgreatest : n < 100)
    (rest : List Char) :
    Lenient.field? greatest (Date.padded 2 n ++ rest) = some (n, rest) := by
  have hnumeral := isNumeral_padded 2 n
  have htake := takeNumber_append hnumeral rest
  rw [length_padded (by decide) (by simpa using hgreatest)] at htake
  simp [Lenient.field?, dropWhile_isBlank_append hnumeral, htake, hn]

theorem timestampField?_padded {greatest : Nat} (hn : n ≤ greatest) (hgreatest : n < 100)
    (rest : List Char) :
    Timestamp.field? greatest (Date.padded 2 n ++ rest) = some (n, rest) := by
  have hfixed := fixed?_append (isNumeral_padded 2 n) rest
  rw [length_padded (by decide) (by simpa using hgreatest)] at hfixed
  simp [Timestamp.field?, hfixed, hn]

end Readers

end MetadataHarvest.Calendar
