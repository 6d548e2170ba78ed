import MetadataHarvest.Json.Printer
import MetadataHarvest.Json.Token

/-!
# Strings read back

However a character is escaped, it is read as one piece, so a text that is written between
quotation marks is read as it was. What is written has no control characters.
-/

namespace MetadataHarvest.Json

open MetadataHarvest.Number

/-- The hexadecimal digits of a control character read as its number. -/
theorem ofBase?_hexDigits {n : Nat} (h : n < 0x20) :
    ofBase? 16 ['0', '0', hexDigit (n / 16), hexDigit n] = some n := by
  have control : ∀ n < 0x20, ofBase? 16 ['0', '0', hexDigit (n / 16), hexDigit n] = some n := by
    decide
  exact control n h

/-- A character stands in a string after a backslash, as the number of a control character,
or as itself. -/
theorem writtenChar_cases (c : Char) :
    (∃ e, e ≠ 'u' ∧ 0x20 ≤ e.toNat ∧ escaped? e = some c ∧ writtenChar c = ['\\', e])
      ∨ (c.toNat < 0x20
        ∧ writtenChar c = ['\\', 'u', '0', '0', hexDigit (c.toNat / 16), hexDigit c.toNat])
      ∨ (c ≠ '"' ∧ c ≠ '\\' ∧ 0x20 ≤ c.toNat ∧ writtenChar c = [c]) := by
  unfold writtenChar
  split
  · next hc => exact .inl ⟨'"', by decide, by decide, by rw [hc]; decide, rfl⟩
  split
  · next hc => exact .inl ⟨'\\', by decide, by decide, by rw [hc]; decide, rfl⟩
  split
  · next hc => exact .inl ⟨'b', by decide, by decide, by rw [← Char.ofNat_toNat c, hc]; decide, rfl⟩
  split
  · next hc => exact .inl ⟨'f', by decide, by decide, by rw [← Char.ofNat_toNat c, hc]; decide, rfl⟩
  split
  · next hc => exact .inl ⟨'n', by decide, by decide, by rw [hc]; decide, rfl⟩
  split
  · next hc => exact .inl ⟨'r', by decide, by decide, by rw [hc]; decide, rfl⟩
  split
  · next hc => exact .inl ⟨'t', by decide, by decide, by rw [hc]; decide, rfl⟩
  split
  · next hc => exact .inr (.inl ⟨hc, rfl⟩)
  · next hquote hbackslash _ _ _ _ _ hc =>
      exact .inr (.inr ⟨hquote, hbackslash, Nat.le_of_not_lt hc, rfl⟩)

/-- A control character has a number of two digits, which is no surrogate. -/
theorem Piece.ofUnit_toNat {c : Char} (h : c.toNat < 0x20) : ofUnit c.toNat = .char c := by
  have hhigh : ¬ 0xD800 ≤ c.toNat := by omega
  have hlow : ¬ 0xDC00 ≤ c.toNat := by omega
  simp [ofUnit, hhigh, hlow, Char.ofNat_toNat]

theorem Piece.join?_map_char (cs : List Char) : join? (cs.map .char) = some cs := by
  induction cs with
  | nil => rfl
  | cons c cs ih => simp [join?, ih]

/-- A written character is read as one piece. -/
theorem pieces?_writtenChar (c : Char) (cs : List Char) :
    pieces? (writtenChar c ++ cs)
      = (pieces? cs).map fun parts => (.char c :: parts.1, parts.2) := by
  rcases writtenChar_cases c with ⟨e, hu, -, he, hc⟩ | ⟨hlt, hc⟩ | ⟨hquote, hbackslash, hle, hc⟩
  · rw [hc, List.cons_append, List.cons_append, List.nil_append, pieces?]
    · cases pieces? cs <;> simp [he]
    · rintro _ _ _ _ _ rfl
      simp_all
  · rw [hc]
    simp only [List.cons_append, List.nil_append]
    rw [pieces?, ofBase?_hexDigits hlt]
    cases pieces? cs <;> simp [Piece.ofUnit_toNat hlt]
  · rw [hc, List.cons_append, List.nil_append, pieces?]
    · rw [if_neg (by simp [hbackslash, Nat.not_lt.mpr hle])]
    all_goals simp_all

theorem pieces?_flatMap_writtenChar (cs rest : List Char) :
    pieces? (cs.flatMap writtenChar ++ '"' :: rest) = some (cs.map .char, rest) := by
  induction cs with
  | nil => rw [List.flatMap_nil, List.nil_append, pieces?, List.map_nil]
  | cons c cs ih =>
      rw [List.flatMap_cons, List.append_assoc, pieces?_writtenChar, ih]
      rfl

theorem writtenString_some (s : String) :
    writtenString (some s) = '"' :: (s.toList.flatMap writtenChar ++ ['"']) := rfl

/-- A string is read as it was written; one without a text is read as one without a text. -/
theorem Token.next?_writtenString (text : Option String) (rest : List Char) :
    ∃ cs, writtenString text = '"' :: cs
      ∧ next? '"' (cs ++ rest) = some (scalar (.string text), rest) := by
  have hquote : ∀ cs, next? '"' cs = (pieces? cs).map fun parts =>
      (scalar (.string ((Piece.join? parts.1).map String.ofList)), parts.2) := by
    intro cs
    simp only [next?, mark?, scalar?, Char.reduceEq, if_true, if_false, Option.map_map]
    rfl
  cases text with
  | some s =>
      refine ⟨_, writtenString_some s, ?_⟩
      rw [hquote, List.append_assoc, List.singleton_append, pieces?_flatMap_writtenChar]
      simp [Piece.join?_map_char]
  | none =>
      refine ⟨"\\ud800\"".toList, rfl, ?_⟩
      have hpieces : pieces? ("\\ud800\"".toList ++ rest) = some ([.high 0], rest) := by
        simp [pieces?, show ofBase? 16 ['d', '8', '0', '0'] = some 0xD800 by decide, Piece.ofUnit]
      rw [hquote, hpieces]
      rfl

section Control

theorem le_toNat_hexDigit (n : Nat) : 0x20 ≤ (hexDigit n).toNat := by
  have digits : ∀ n < 16, 0x20 ≤ (Nat.digitChar n).toNat := by decide
  exact digits (n % 16) (Nat.mod_lt n (by decide))

theorem le_toNat_of_mem_writtenChar {c d : Char} (h : d ∈ writtenChar c) : 0x20 ≤ d.toNat := by
  rcases writtenChar_cases c with ⟨e, -, hle, -, hc⟩ | ⟨-, hc⟩ | ⟨-, -, hle, hc⟩
  · rw [hc] at h
    simp only [List.mem_cons, List.not_mem_nil, or_false] at h
    rcases h with rfl | rfl
    · decide
    · exact hle
  · rw [hc] at h
    simp only [List.mem_cons, List.not_mem_nil, or_false] at h
    rcases h with rfl | rfl | rfl | rfl | rfl | rfl
    iterate 4 decide
    · exact le_toNat_hexDigit _
    · exact le_toNat_hexDigit _
  · rw [hc, List.mem_singleton] at h
    rwa [h]

theorem le_toNat_of_mem_writtenString {text : Option String} {d : Char}
    (h : d ∈ writtenString text) : 0x20 ≤ d.toNat := by
  have hquote : 0x20 ≤ '"'.toNat := by decide
  cases text with
  | some s =>
      rw [writtenString_some, List.mem_cons, List.mem_append, List.mem_flatMap,
        List.mem_singleton] at h
      rcases h with rfl | ⟨c, -, hd⟩ | rfl
      · exact hquote
      · exact le_toNat_of_mem_writtenChar hd
      · exact hquote
  | none =>
      have surrogate : (writtenString none).all (0x20 ≤ ·.toNat) = true := by decide
      exact of_decide_eq_true (List.all_eq_true.mp surrogate d h)

end Control

end MetadataHarvest.Json
