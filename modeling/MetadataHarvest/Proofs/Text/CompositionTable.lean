import MetadataHarvest.Text.Blank
import MetadataHarvest.Text.Composition

/-!
# Composition undoes decomposition

What the rows of the tables have in common is found by going through them, and said here of the
functions that look them up: a decomposition is not decomposed further, a composite decomposes
into its parts, and blanks and other characters do not turn into each other.
-/

namespace MetadataHarvest.Text

theorem toNat_ofNat {n : Nat} (h : n.isValidChar) : (Char.ofNat n).toNat = n := by
  rw [Char.ofNat, dif_pos h]
  rfl

section Blank

/-- Whether a code point is in one of the ranges between the blanks. -/
def isBetweenBlanks (n : Nat) : Bool :=
  (0x20 < n && n < 0x80) || (0xA0 < n && n < 0x1680) || (0x1680 < n && n < 0x2000)
    || (0x205F < n && n != 0x3000)

theorem isBlank_of_isBetweenBlanks {c : Char} (h : isBetweenBlanks c.toNat = true) :
    isBlank c = false := by
  simp only [isBetweenBlanks, Bool.or_eq_true, Bool.and_eq_true, decide_eq_true_eq,
    bne_iff_ne] at h
  simp only [isBlank, Bool.or_eq_false_iff, Bool.and_eq_false_iff, decide_eq_false_iff_not,
    beq_eq_false_iff_ne]
  omega

end Blank

section Rows

/-- A row of decompositions says all that is to be said of its code points: they are not decomposed
further, and only a blank decomposes into blanks. No blank but two wide ones and no letter of the
Hangul syllables has a row. -/
def isFullRow (row : Nat × List Nat) : Bool :=
  0x20 < row.1 && (row.1 < 0x1100 || 0x11FF < row.1) && !row.2.isEmpty
    && row.2.all fun n => decide n.isValidChar && decomposeCode n == [n]
      && (row.1 == 0x2000 || row.1 == 0x2001 || isBetweenBlanks n)

/-- A row of compositions undoes a step of decomposition, and has no blanks. -/
def isUndoingRow (row : Nat × Nat × Nat) : Bool :=
  decide row.2.2.isValidChar && decomposeCode row.2.2 == decomposeCode row.1 ++ [row.2.1]
    && isBetweenBlanks row.1 && isBetweenBlanks row.2.1 && isBetweenBlanks row.2.2
    && row.2.1 < 0x200000

/-- In a row of compositions a mark follows, and of the ASCII characters only letters and three
signs have marks. -/
def isMarkingRow (row : Nat × Nat × Nat) : Bool :=
  0x80 ≤ row.2.1 && (0x80 ≤ row.1 || (Char.ofNat row.1).isAlpha
    || "<=>".toList.contains (Char.ofNat row.1))

/-- The rows hold what is said of them. All tables are gone through by one evaluation, the only long
one here. -/
theorem rows_hold :
    decompositionRows.all (fun row => isFullRow row && decide (0x80 ≤ row.1)) = true ∧
      compositionRows.all (fun row => isUndoingRow row && isMarkingRow row) = true ∧
      combiningRows.all (fun row => decide (0x20 < row.1)) = true := by
  decide +kernel

theorem isFullRow_of_mem : ∀ row ∈ decompositionRows, isFullRow row = true := by
  intro row hmem
  have hrow := List.all_eq_true.mp rows_hold.1 row hmem
  exact (Bool.and_eq_true_iff.mp hrow).1

theorem le_of_mem_decompositionRows : ∀ row ∈ decompositionRows, 0x80 ≤ row.1 := by
  intro row hmem
  have hrow := List.all_eq_true.mp rows_hold.1 row hmem
  exact of_decide_eq_true (Bool.and_eq_true_iff.mp hrow).2

theorem isUndoingRow_of_mem : ∀ row ∈ compositionRows, isUndoingRow row = true := by
  intro row hmem
  have hrow := List.all_eq_true.mp rows_hold.2.1 row hmem
  exact (Bool.and_eq_true_iff.mp hrow).1

theorem isMarkingRow_of_mem : ∀ row ∈ compositionRows, isMarkingRow row = true := by
  intro row hmem
  have hrow := List.all_eq_true.mp rows_hold.2.1 row hmem
  exact (Bool.and_eq_true_iff.mp hrow).2

theorem lt_of_mem_combiningRows : ∀ row ∈ combiningRows, 0x20 < row.1 := by
  intro row hmem
  exact of_decide_eq_true (List.all_eq_true.mp rows_hold.2.2 row hmem)

end Rows

section Hangul

/-- The letters of a syllable, with all constants put in. -/
theorem decompose?_eq (n : Nat) :
    Hangul.decompose? n =
      if 0xAC00 ≤ n ∧ n < 0xD7A4 then
        some (if (n - 0xAC00) % 28 = 0 then
            [0x1100 + (n - 0xAC00) / 588, 0x1161 + (n - 0xAC00) % 588 / 28]
          else [0x1100 + (n - 0xAC00) / 588, 0x1161 + (n - 0xAC00) % 588 / 28,
            0x11A7 + (n - 0xAC00) % 28])
      else none := by
  unfold Hangul.decompose?
  simp only [Bool.and_eq_true, decide_eq_true_eq]
  rfl

theorem compose?_eq (a b : Nat) :
    Hangul.compose? a b =
      if (0x1100 ≤ a ∧ a < 0x1113) ∧ 0x1161 ≤ b ∧ b < 0x1176 then
        some (0xAC00 + ((a - 0x1100) * 21 + (b - 0x1161)) * 28)
      else if (0xAC00 ≤ a ∧ a < 0xD7A4) ∧ (a - 0xAC00) % 28 = 0 ∧ 0x11A7 < b ∧ b < 0x11C3 then
        some (a + (b - 0x11A7))
      else none := by
  unfold Hangul.compose?
  simp only [Bool.and_eq_true, decide_eq_true_eq, and_assoc]
  rfl

end Hangul

section Decomposition

variable {n m : Nat} {c d : Char}

/-- The parts of a Hangul syllable are letters of its script. -/
theorem mem_range_of_decompose? {letters : List Nat} (h : Hangul.decompose? n = some letters) :
    letters ≠ [] ∧ ∀ m ∈ letters, 0x1100 ≤ m ∧ m ≤ 0x11FF := by
  rw [decompose?_eq, Option.ite_none_right_eq_some, Option.some.injEq] at h
  obtain ⟨hn, rfl⟩ := h
  split
  · refine ⟨List.cons_ne_nil _ _, ?_⟩
    simp only [List.forall_mem_cons, List.not_mem_nil, false_imp_iff, forall_const, and_true]
    omega
  · refine ⟨List.cons_ne_nil _ _, ?_⟩
    simp only [List.forall_mem_cons, List.not_mem_nil, false_imp_iff, forall_const, and_true]
    omega

theorem decompose?_of_lt (h : n < 0xAC00) : Hangul.decompose? n = none := by
  rw [decompose?_eq, if_neg (by omega)]

theorem mem_decompositionRows {sequence : List Nat} (h : decompositions.find? n = some sequence) :
    (n, sequence) ∈ decompositionRows := by
  have hmem := SearchTree.mem_toList_of_find? h
  rwa [toList_decompositions] at hmem

/-- A code point without a row stands for itself. -/
theorem decomposeCode_of_not_mem (hn : n < 0xAC00)
    (h : ∀ sequence, (n, sequence) ∉ decompositionRows) : decomposeCode n = [n] := by
  have hfind : decompositions.find? n = none := by
    cases hfind : decompositions.find? n with
    | none => rfl
    | some sequence => exact absurd (mem_decompositionRows hfind) (h sequence)
  rw [decomposeCode, decompose?_of_lt hn, hfind]
  rfl

theorem decomposeCode_hangul (h : 0x1100 ≤ n ∧ n ≤ 0x11FF) : decomposeCode n = [n] := by
  apply decomposeCode_of_not_mem (by omega)
  intro sequence hmem
  have hrow := isFullRow_of_mem _ hmem
  simp only [isFullRow, Bool.and_eq_true, Bool.or_eq_true, decide_eq_true_eq] at hrow
  omega

/-- What stands in a decomposition: the code point itself, a letter of the Hangul script, or a
number in a row of the table. -/
theorem decomposeCode_cases (n : Nat) :
    decomposeCode n = [n] ∨
      (decomposeCode n ≠ [] ∧ ∀ m ∈ decomposeCode n, 0x1100 ≤ m ∧ m ≤ 0x11FF) ∨
      (n, decomposeCode n) ∈ decompositionRows := by
  unfold decomposeCode
  cases hletters : Hangul.decompose? n with
  | some letters => exact .inr (.inl (mem_range_of_decompose? hletters))
  | none =>
      cases hfind : decompositions.find? n with
      | some sequence => exact .inr (.inr (mem_decompositionRows hfind))
      | none => exact .inl rfl

theorem decomposeCode_of_mem (hn : n.isValidChar) (h : m ∈ decomposeCode n) :
    m.isValidChar ∧ decomposeCode m = [m] := by
  rcases decomposeCode_cases n with hself | ⟨-, hletters⟩ | hrow
  · rw [hself, List.mem_singleton] at h
    rw [h]
    exact ⟨hn, hself⟩
  · have hm := hletters m h
    exact ⟨.inl (by omega), decomposeCode_hangul hm⟩
  · have hfull := isFullRow_of_mem _ hrow
    simp only [isFullRow, Bool.and_eq_true, List.all_eq_true, decide_eq_true_eq, beq_iff_eq]
      at hfull
    exact (hfull.2 m h).1

theorem mem_decomposeChar_iff :
    d ∈ decomposeChar c ↔ d.toNat ∈ decomposeCode c.toNat := by
  rw [decomposeChar, List.mem_map]
  constructor
  · rintro ⟨m, hm, rfl⟩
    rwa [toNat_ofNat (decomposeCode_of_mem c.valid hm).1]
  · intro hd
    exact ⟨d.toNat, hd, Char.ofNat_toNat d⟩

/-- A decomposition is not decomposed further. -/
theorem decomposeChar_of_mem (h : d ∈ decomposeChar c) : decomposeChar d = [d] := by
  rw [decomposeChar, (decomposeCode_of_mem c.valid (mem_decomposeChar_iff.mp h)).2,
    List.map_singleton, Char.ofNat_toNat]

theorem decomposeChar_ne_nil (c : Char) : decomposeChar c ≠ [] := by
  rw [decomposeChar, ne_eq, List.map_eq_nil_iff]
  rcases decomposeCode_cases c.toNat with hself | ⟨hne, -⟩ | hrow
  · simp [hself]
  · exact hne
  · have hfull := isFullRow_of_mem _ hrow
    simp only [isFullRow, Bool.and_eq_true, Bool.not_eq_true', List.isEmpty_eq_false_iff] at hfull
    exact hfull.1.2

/-- A character that is not blank does not decompose into blanks. -/
theorem isBlank_of_mem_decomposeChar (hc : isBlank c = false) (h : d ∈ decomposeChar c) :
    isBlank d = false := by
  have hd := mem_decomposeChar_iff.mp h
  rcases decomposeCode_cases c.toNat with hself | ⟨-, hletters⟩ | hrow
  · rw [hself, List.mem_singleton, Char.toNat_inj] at hd
    rwa [hd]
  · have hm := hletters _ hd
    apply isBlank_of_isBetweenBlanks
    simp only [isBetweenBlanks, Bool.or_eq_true, Bool.and_eq_true, decide_eq_true_eq, bne_iff_ne]
    omega
  · have hfull := isFullRow_of_mem _ hrow
    simp only [isFullRow, Bool.and_eq_true, List.all_eq_true, Bool.or_eq_true, beq_iff_eq] at hfull
    rcases (hfull.2 _ hd).2 with (hwide | hwide) | hbetween
    · simp [isBlank, hwide] at hc
    · simp [isBlank, hwide] at hc
    · exact isBlank_of_isBetweenBlanks hbetween

theorem decomposeChar_of_ascii (h : c.toNat < 0x80) : decomposeChar c = [c] := by
  have hcode : decomposeCode c.toNat = [c.toNat] := by
    apply decomposeCode_of_not_mem (by omega)
    intro sequence hmem
    have hle : 0x80 ≤ c.toNat := le_of_mem_decompositionRows _ hmem
    omega
  rw [decomposeChar, hcode, List.map_singleton, Char.ofNat_toNat]

theorem combiningClass_space : combiningClass ' ' = 0 := by
  unfold combiningClass
  cases h : combiningClasses.floor? ' '.toNat with
  | none => rfl
  | some row =>
      obtain ⟨hmem, hle⟩ := SearchTree.mem_toList_of_floor? h
      rw [toList_combiningClasses] at hmem
      have hlt := lt_of_mem_combiningRows _ hmem
      have hspace : ' '.toNat = 0x20 := rfl
      omega

end Decomposition

section Composition

variable {a b n : Nat} {first second composite : Char}

theorem pairKey_inj {a' b' : Nat} (hb : b < 0x200000) (hb' : b' < 0x200000)
    (h : pairKey a b = pairKey a' b') : a = a' ∧ b = b' := by
  simp only [pairKey] at h
  omega

theorem mem_compositionRows (hb : b < 0x200000)
    (h : compositions.find? (pairKey a b) = some n) : (a, b, n) ∈ compositionRows := by
  have hmem := SearchTree.mem_toList_of_find? h
  rw [toList_compositions, List.mem_map] at hmem
  obtain ⟨⟨a', b', n'⟩, hrow, heq⟩ := hmem
  have hundoing := isUndoingRow_of_mem _ hrow
  simp only [isUndoingRow, Bool.and_eq_true, decide_eq_true_eq] at hundoing
  obtain ⟨hkey, rfl⟩ := Prod.mk.inj heq
  obtain ⟨rfl, rfl⟩ := pairKey_inj hundoing.2 hb hkey
  exact hrow

theorem decomposeCode_of_decompose? {letters : List Nat}
    (h : Hangul.decompose? n = some letters) : decomposeCode n = letters := by
  rw [decomposeCode, h]
  rfl

/-- Hangul letters compose to the syllable that decomposes into them. -/
theorem decomposeCode_of_compose? (h : Hangul.compose? a b = some n) :
    decomposeCode n = decomposeCode a ++ [b] ∧
      (0x1100 ≤ a ∧ a ≤ 0x11FF ∨ 0xAC00 ≤ a) ∧ (0x1100 ≤ b ∧ b ≤ 0x11FF) ∧
      0xAC00 ≤ n ∧ n < 0xD7A4 := by
  rw [compose?_eq] at h
  split at h
  · next hletters =>
      obtain rfl := Option.some.inj h
      refine ⟨?_, by omega, by omega, by omega, by omega⟩
      have hsyllable :
          Hangul.decompose? (0xAC00 + ((a - 0x1100) * 21 + (b - 0x1161)) * 28) = some [a, b] := by
        rw [decompose?_eq, if_pos (by omega), if_pos (by omega)]
        simp only [Option.some.injEq, List.cons.injEq, and_true]
        omega
      rw [decomposeCode_of_decompose? hsyllable, decomposeCode_hangul (n := a) (by omega)]
      rfl
  · rw [Option.ite_none_right_eq_some, Option.some.injEq] at h
    obtain ⟨hsyllable, rfl⟩ := h
    refine ⟨?_, by omega, by omega, by omega, by omega⟩
    rw [decomposeCode_of_decompose? ((decompose?_eq a).trans (if_pos hsyllable.1)),
      if_pos hsyllable.2.1]
    apply decomposeCode_of_decompose?
    rw [decompose?_eq, if_pos (by omega), if_neg (by omega)]
    simp only [Option.some.injEq, List.cons_append, List.nil_append, List.cons.injEq, and_true]
    omega

/-- What composes is no blank, and the composite decomposes into it. -/
theorem decomposeCode_of_composeCodes? (hb : b < 0x200000) (h : composeCodes? a b = some n) :
    n.isValidChar ∧ decomposeCode n = decomposeCode a ++ [b] ∧
      isBetweenBlanks a = true ∧ isBetweenBlanks b = true ∧ isBetweenBlanks n = true := by
  rcases Option.or_eq_some_iff.mp h with h | ⟨-, h⟩
  · obtain ⟨hcode, ha, hb, hn⟩ := decomposeCode_of_compose? h
    simp only [isBetweenBlanks, Bool.or_eq_true, Bool.and_eq_true, decide_eq_true_eq, bne_iff_ne]
    exact ⟨.inl (by omega), hcode, by omega, by omega, by omega⟩
  · have hrow := isUndoingRow_of_mem _ (mem_compositionRows hb h)
    simp only [isUndoingRow, Bool.and_eq_true, decide_eq_true_eq, beq_iff_eq] at hrow
    obtain ⟨⟨⟨⟨⟨hvalid, hcode⟩, ha⟩, hb⟩, hn⟩, -⟩ := hrow
    exact ⟨hvalid, hcode, ha, hb, hn⟩

theorem toNat_lt (c : Char) : c.toNat < 0x200000 := by
  have hvalid : c.toNat.isValidChar := c.valid
  unfold Nat.isValidChar at hvalid
  omega

/-- A composite decomposes into its parts. -/
theorem decomposeChar_of_composePair? (h : composePair? first second = some composite) :
    decomposeChar composite = decomposeChar first ++ [second] := by
  obtain ⟨n, hn, rfl⟩ := Option.map_eq_some_iff.mp h
  obtain ⟨hvalid, hcode, -⟩ := decomposeCode_of_composeCodes? (toNat_lt second) hn
  rw [decomposeChar, toNat_ofNat hvalid, hcode, List.map_append, List.map_singleton,
    Char.ofNat_toNat, decomposeChar]

/-- Blanks do not compose with anything, and nothing composes to a blank. -/
theorem isBlank_of_composePair? (h : composePair? first second = some composite) :
    isBlank first = false ∧ isBlank second = false ∧ isBlank composite = false := by
  obtain ⟨n, hn, rfl⟩ := Option.map_eq_some_iff.mp h
  obtain ⟨hvalid, -, hfirst, hsecond, hcomposite⟩ :=
    decomposeCode_of_composeCodes? (toNat_lt second) hn
  refine ⟨isBlank_of_isBetweenBlanks hfirst, isBlank_of_isBetweenBlanks hsecond, ?_⟩
  apply isBlank_of_isBetweenBlanks
  rwa [toNat_ofNat hvalid]

/-- An ASCII character is no mark, and only letters and three signs have marks. -/
theorem marked_of_composePair? (h : composePair? first second = some composite) :
    0x80 ≤ second.toNat ∧
      (0x80 ≤ first.toNat ∨ first.isAlpha = true ∨ first ∈ "<=>".toList) := by
  obtain ⟨n, hn, -⟩ := Option.map_eq_some_iff.mp h
  rcases Option.or_eq_some_iff.mp hn with hn | ⟨-, hn⟩
  · obtain ⟨-, hfirst, hsecond, -⟩ := decomposeCode_of_compose? hn
    omega
  · have hrow := isMarkingRow_of_mem _ (mem_compositionRows (toNat_lt second) hn)
    simp only [isMarkingRow, Char.ofNat_toNat, Bool.and_eq_true, Bool.or_eq_true,
      decide_eq_true_eq, List.contains_iff_mem, or_assoc] at hrow
    exact hrow

end Composition

section Separate

variable {c : Char}

/-- Whether composing leaves a character where it is. -/
def isSeparate (c : Char) : Bool :=
  c.toNat < 0x80 && !c.isAlpha && !"<=>".toList.contains c

theorem isSeparate_iff :
    isSeparate c = true ↔ c.toNat < 0x80 ∧ c.isAlpha = false ∧ c ∉ "<=>".toList := by
  simp [isSeparate, and_assoc]

theorem composePair?_separate_left (hc : isSeparate c = true) (d : Char) :
    composePair? c d = none := by
  obtain ⟨hascii, halpha, hsign⟩ := isSeparate_iff.mp hc
  cases h : composePair? c d with
  | none => rfl
  | some composite =>
      rcases (marked_of_composePair? h).2 with hlarge | hletter | hmem
      · omega
      · rw [halpha] at hletter
        cases hletter
      · exact absurd hmem hsign

theorem composePair?_separate_right (hc : isSeparate c = true) (d : Char) :
    composePair? d c = none := by
  obtain ⟨hascii, -⟩ := isSeparate_iff.mp hc
  cases h : composePair? d c with
  | none => rfl
  | some composite =>
      have hmark := (marked_of_composePair? h).1
      omega

end Separate

end MetadataHarvest.Text
