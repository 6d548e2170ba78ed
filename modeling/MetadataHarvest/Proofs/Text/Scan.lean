import MetadataHarvest.Text.Scan

/-!
# Where scanning stops

A run of characters ends where the next character is of another kind, and a mark is found where
its first character first occurs. So a scanner takes the front of a text as it was put there.
-/

namespace MetadataHarvest.Text

section Run

variable {p : Char → Bool} {front rest : List Char} (hfront : ∀ c ∈ front, p c = true)
  (hrest : ∀ c ∈ rest.head?, p c = false)

include hfront hrest in
theorem takeWhile_append_of_head? : (front ++ rest).takeWhile p = front := by
  rw [List.takeWhile_append_of_pos hfront]
  cases rest with
  | nil => simp
  | cons c rest => simp [hrest c rfl]

include hfront hrest in
theorem dropWhile_append_of_head? : (front ++ rest).dropWhile p = rest := by
  rw [List.dropWhile_append_of_pos hfront]
  cases rest with
  | nil => rfl
  | cons c rest => simp [hrest c rfl]

end Run

/-- A mark is found where its first character first occurs. -/
theorem breakOn?_append {m : Char} {mark front : List Char} (h : m ∉ front)
    (back : List Char) :
    breakOn? (m :: mark) (front ++ (m :: mark ++ back)) = some (front, back) := by
  induction front with
  | nil => simp [breakOn?]
  | cons c front ih =>
      rw [List.mem_cons, not_or] at h
      have hback := ih h.2
      simp only [List.cons_append] at hback
      simp [breakOn?, h.1, hback]

section Mark

variable {start front : List Char} {z : Char} (hz : z ∉ start)

include hz in
/-- A mark whose last character stands in it only once begins at no place before the one where
it was put, unless all of it stands there. -/
theorem not_prefix_append (hne : front ≠ []) (h : ¬(start ++ [z]) <:+: front)
    (back : List Char) : ¬(start ++ [z]) <+: front ++ (start ++ [z] ++ back) := by
  intro hprefix
  rcases List.prefix_or_prefix_of_prefix hprefix (List.prefix_append _ _) with hin | ⟨tail, htail⟩
  · exact h hin.isInfix
  · rcases List.eq_nil_or_concat tail with rfl | ⟨more, y, rfl⟩
    · rw [List.append_nil] at htail
      exact h (htail ▸ List.infix_rfl)
    · rw [List.concat_eq_append, ← List.append_assoc] at htail
      obtain ⟨rfl, hy⟩ := List.append_inj' htail rfl
      obtain rfl : y = z := List.singleton_inj.mp hy
      have hearly : more ++ [y] <+: front ++ more := by
        have hback : more ++ [y] <+: (front ++ more) ++ ([y] ++ back) := by
          simpa only [List.append_assoc, List.prefix_append_right_inj] using hprefix
        apply List.prefix_of_prefix_length_le hback (List.prefix_append _ _)
        have hlength := List.length_pos_iff.mpr hne
        simp only [List.length_append, List.length_singleton]
        omega
      exact hz (hearly.subset (by simp))

include hz in
/-- Such a mark is found where it was put. -/
theorem breakOn?_append_of_not_infix (h : ¬(start ++ [z]) <:+: front) (back : List Char) :
    breakOn? (start ++ [z]) (front ++ (start ++ [z] ++ back)) = some (front, back) := by
  induction front with
  | nil =>
      obtain ⟨m, mark, hmark⟩ : ∃ m mark, start ++ [z] = m :: mark :=
        List.exists_cons_of_ne_nil (by simp)
      rw [hmark]
      exact breakOn?_append List.not_mem_nil back
  | cons c front ih =>
      have hfront : ¬(start ++ [z]) <:+: front := fun hin =>
        h (hin.trans (List.suffix_cons c front).isInfix)
      have hhere : ¬(start ++ [z]).isPrefixOf (c :: (front ++ (start ++ [z] ++ back))) = true := by
        rw [List.isPrefixOf_iff_prefix]
        exact not_prefix_append hz (List.cons_ne_nil c front) h back
      rw [List.cons_append, breakOn?, if_neg hhere, ih hfront]
      rfl

end Mark

/-- What holds of all ASCII characters can be checked value by value. -/
@[elab_as_elim]
theorem forall_ascii {P : Char → Prop} {c : Char} (hc : c.toNat < 128)
    (h : ∀ n < 128, P (Char.ofNat n)) : P c := by
  have hchar := h c.toNat hc
  rwa [Char.ofNat_toNat] at hchar

/-- Letters and digits are ASCII characters. -/
theorem toNat_lt_of_isAlphanum {c : Char} (h : c.isAlphanum = true) : c.toNat < 128 := by
  delta Char.isAlphanum Char.isAlpha Char.isUpper Char.isLower Char.isDigit at h
  simp only [Bool.or_eq_true, Bool.and_eq_true, decide_eq_true_eq, UInt32.le_iff_toNat_le,
    ge_iff_le] at h
  rcases h with (h | h) | h
  · exact Nat.lt_of_le_of_lt h.2 (by decide)
  · exact Nat.lt_of_le_of_lt h.2 (by decide)
  · exact Nat.lt_of_le_of_lt h.2 (by decide)

end MetadataHarvest.Text
