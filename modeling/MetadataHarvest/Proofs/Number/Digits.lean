import MetadataHarvest.Number.Digits

/-!
# The decimal digits of a number

A number is written without leading zeros, and its digits read as the number.
-/

namespace MetadataHarvest.Number

/-- The digits by their code points. -/
theorem isDigit_iff {c : Char} : isDigit c = true ↔ 48 ≤ c.toNat ∧ c.toNat ≤ 57 := by
  simp [isDigit, Char.le_def, UInt32.le_iff_toNat_le]

theorem isDigit_of_mem_toDigits {n : Nat} {c : Char} (h : c ∈ Nat.toDigits 10 n) :
    isDigit c = true := by
  have hdigit := Nat.isDigit_of_mem_toDigits (by decide) (by decide) h
  simpa [isDigit_iff, Char.isDigit, UInt32.le_iff_toNat_le] using hdigit

theorem ofDigits_toDigits (n : Nat) : ofDigits (Nat.toDigits 10 n) = n := by
  calc ofDigits (Nat.toDigits 10 n)
      = Nat.ofDigitChars 10 (Nat.toDigits 10 n) 0 := by
        simp only [Nat.ofDigitChars_eq_foldl, ofDigits, Nat.mul_comm]
    _ = n := Nat.ofDigitChars_ten_toDigits

/-- Only zero is written with a zero in front. -/
theorem head?_toDigits_ne_zero {n : Nat} (h : n ≠ 0) :
    (Nat.toDigits 10 n).head? ≠ some '0' := by
  induction n using Nat.strongRecOn with
  | ind n ih =>
      rw [Nat.toDigits_eq_if (by decide)]
      split
      · next hn =>
          have digits : ∀ d, d < 10 → d ≠ 0 → Nat.digitChar d ≠ '0' := by decide
          simpa using digits n hn h
      · next hn =>
          have hquotient := ih (n / 10) (by omega) (by omega)
          obtain ⟨d, ds, hd⟩ :=
            List.exists_cons_of_ne_nil (Nat.toDigits_ne_nil : Nat.toDigits 10 (n / 10) ≠ [])
          rw [hd] at hquotient ⊢
          exact hquotient

end MetadataHarvest.Number
