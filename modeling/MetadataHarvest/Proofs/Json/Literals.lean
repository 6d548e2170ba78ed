import MetadataHarvest.Json.Decimal
import MetadataHarvest.Json.Printer
import MetadataHarvest.Json.Token
import MetadataHarvest.Proofs.Number.Digits
import MetadataHarvest.Proofs.Text.Scan

/-!
# Numbers read back

A literal that keeps to the grammar of numbers is read as it was written, provided that what
follows it cannot belong to it. The literals of integers and of floating-point numbers keep to
the grammar.
-/

namespace MetadataHarvest.Json

open MetadataHarvest.Number MetadataHarvest.Text

/-- A run of one or more digits. -/
def AreDigits (cs : List Char) : Prop := cs ≠ [] ∧ ∀ c ∈ cs, isDigit c = true

theorem areDigits_toDigits (n : Nat) : AreDigits (Nat.toDigits 10 n) :=
  ⟨Nat.toDigits_ne_nil, fun _ => isDigit_of_mem_toDigits⟩

theorem isDigit_cases {c : Char} (h : isDigit c = true) :
    c ∈ ['0', '1', '2', '3', '4', '5', '6', '7', '8', '9'] := by
  obtain ⟨hlow, hhigh⟩ := isDigit_iff.mp h
  have hc : c.toNat ∈ List.range' 48 10 :=
    List.mem_range'_1.mpr ⟨hlow, Nat.lt_succ_of_le hhigh⟩
  rw [← Char.ofNat_toNat c]
  exact List.mem_map_of_mem (f := Char.ofNat) hc

namespace Literal

/-- A literal of the grammar: digits before the point and, where there is a point or an
exponent, after it, and no digit after a leading zero. -/
structure IsGrammatical (l : Literal) : Prop where
  whole : AreDigits l.whole
  leadingZero : l.whole.head? = some '0' → l.whole.length ≤ 1
  fraction : ∀ digits ∈ l.fraction, AreDigits digits
  exponent : ∀ e ∈ l.exponent, AreDigits e.2

/-- The fraction as it is written. -/
def writtenFraction : Option (List Char) → List Char
  | some digits => '.' :: digits
  | none => []

/-- The exponent as it is written. -/
def writtenExponent : Option (Bool × List Char) → List Char
  | some (negative, digits) => 'e' :: (if negative then '-' else '+') :: digits
  | none => []

theorem written_eq (l : Literal) :
    l.written = (if l.negative then ['-'] else [])
      ++ (l.whole ++ (writtenFraction l.fraction ++ writtenExponent l.exponent)) := by
  rcases l with ⟨negative, whole, _ | fraction, _ | ⟨sign, exponent⟩⟩ <;>
    simp [written, writtenFraction, writtenExponent]

end Literal

/-- Whether a character may belong to the number that it follows. -/
def continuesNumber (c : Char) : Bool := isDigit c || c == '.' || c == 'e' || c == 'E'

theorem continuesNumber_eq_false {c : Char} :
    continuesNumber c = false ↔ isDigit c = false ∧ c ≠ '.' ∧ c ≠ 'e' ∧ c ≠ 'E' := by
  simp [continuesNumber, and_assoc]

section Reading

variable {rest : List Char} (hrest : ∀ c ∈ rest.head?, continuesNumber c = false)

include hrest

theorem exponentPart?_written {exponent : Option (Bool × List Char)}
    (h : ∀ e ∈ exponent, AreDigits e.2) :
    exponentPart? (Literal.writtenExponent exponent ++ rest) = some (exponent, rest) := by
  cases exponent with
  | none =>
      cases rest with
      | nil => rfl
      | cons c rest =>
          have hc := continuesNumber_eq_false.mp (hrest c rfl)
          simp [Literal.writtenExponent, exponentPart?, hc]
  | some e =>
      obtain ⟨negative, digits⟩ := e
      obtain ⟨hne, hdigits⟩ := h _ rfl
      have hstop : ∀ c ∈ rest.head?, isDigit c = false := fun c hc =>
        (continuesNumber_eq_false.mp (hrest c hc)).1
      have hsign : splitSign ((if negative then '-' else '+') :: (digits ++ rest))
          = (negative, digits ++ rest) := by
        cases negative <;> rfl
      simp only [Literal.writtenExponent, List.cons_append, exponentPart?, hsign,
        takeWhile_append_of_head? hdigits hstop, dropWhile_append_of_head? hdigits hstop]
      simp [hne]

/-- What follows the digits of a fraction, or of a number without one, is neither a digit nor a
point. -/
theorem head?_writtenExponent {exponent : Option (Bool × List Char)} {c : Char}
    (hc : c ∈ (Literal.writtenExponent exponent ++ rest).head?) :
    isDigit c = false ∧ c ≠ '.' := by
  cases exponent with
  | none =>
      have := continuesNumber_eq_false.mp (hrest c hc)
      exact ⟨this.1, this.2.1⟩
  | some e =>
      cases Option.some.inj hc
      decide

theorem fraction?_written {fraction : Option (List Char)}
    (h : ∀ digits ∈ fraction, AreDigits digits) (exponent : Option (Bool × List Char)) :
    fraction? (Literal.writtenFraction fraction ++ (Literal.writtenExponent exponent ++ rest))
      = some (fraction, Literal.writtenExponent exponent ++ rest) := by
  have hstop : ∀ c ∈ (Literal.writtenExponent exponent ++ rest).head?,
      isDigit c = false ∧ c ≠ '.' := fun _ => head?_writtenExponent hrest
  generalize Literal.writtenExponent exponent ++ rest = after at hstop ⊢
  cases fraction with
  | none =>
      rw [Literal.writtenFraction, List.nil_append, fraction?]
      rintro cs rfl
      exact absurd rfl (hstop _ rfl).2
  | some digits =>
      obtain ⟨hne, hdigits⟩ := h _ rfl
      have hend : ∀ c ∈ after.head?, isDigit c = false := fun c hc => (hstop c hc).1
      simp only [Literal.writtenFraction, List.cons_append, fraction?,
        takeWhile_append_of_head? hdigits hend, dropWhile_append_of_head? hdigits hend]
      simp [hne]

theorem unsigned?_written {l : Literal} (h : l.IsGrammatical) :
    unsigned? l.negative (l.whole ++ (Literal.writtenFraction l.fraction
      ++ (Literal.writtenExponent l.exponent ++ rest))) = some (l, rest) := by
  have hend : ∀ c ∈ (Literal.writtenFraction l.fraction
      ++ (Literal.writtenExponent l.exponent ++ rest)).head?, isDigit c = false := by
    intro c hc
    cases hf : l.fraction with
    | none =>
        rw [hf] at hc
        exact (head?_writtenExponent hrest hc).1
    | some digits =>
        rw [hf] at hc
        cases Option.some.inj hc
        decide
  have hzero :
      ¬((l.whole.isEmpty || (l.whole.head? == some '0' && 1 < l.whole.length)) = true) := by
    have := h.leadingZero
    simp only [Bool.or_eq_true, Bool.and_eq_true, List.isEmpty_iff, beq_iff_eq, decide_eq_true_eq,
      not_or, not_and]
    exact ⟨h.whole.1, fun hz => Nat.not_lt.mpr (this hz)⟩
  simp only [unsigned?, takeWhile_append_of_head? h.whole.2 hend,
    dropWhile_append_of_head? h.whole.2 hend, if_neg hzero, fraction?_written hrest h.fraction,
    exponentPart?_written hrest h.exponent, Option.bind_eq_bind, Option.bind_some]
  rfl

/-- A literal of the grammar is read as it was written. -/
theorem number?_written {l : Literal} (h : l.IsGrammatical) :
    number? (l.written ++ rest) = some (l, rest) := by
  have hunsigned := unsigned?_written hrest h
  rw [Literal.written_eq]
  cases hs : l.negative with
  | true =>
      rw [hs] at hunsigned
      simpa [number?] using hunsigned
  | false =>
      rw [hs] at hunsigned
      simp only [Bool.false_eq_true, if_false, List.nil_append, List.append_assoc]
      rw [number?, hunsigned]
      intro cs hcs
      obtain ⟨c, digits, hw⟩ := List.exists_cons_of_ne_nil h.whole.1
      have hc := h.whole.2 c (by simp [hw])
      rw [hw] at hcs
      cases (List.cons.inj hcs).1
      exact absurd hc (by decide)

end Reading

/-- What a literal of the grammar begins with: a minus sign or a digit. -/
def numberStarts : List Char := ['-', '0', '1', '2', '3', '4', '5', '6', '7', '8', '9']

theorem Literal.IsGrammatical.head {l : Literal} (h : l.IsGrammatical) :
    ∃ c cs, l.written = c :: cs
      ∧ c ∈ numberStarts := by
  rw [written_eq]
  obtain ⟨c, digits, hw⟩ := List.exists_cons_of_ne_nil h.whole.1
  cases l.negative with
  | true => exact ⟨'-', _, rfl, by decide⟩
  | false =>
      refine ⟨c, _, by rw [hw]; rfl, ?_⟩
      exact List.mem_cons_of_mem _ (isDigit_cases (h.whole.2 c (by simp [hw])))

/-- A literal of the grammar is one token. -/
theorem Token.next?_literal {l : Literal} (h : l.IsGrammatical) {rest : List Char}
    (hrest : ∀ c ∈ rest.head?, continuesNumber c = false) :
    ∃ c cs, l.written = c :: cs ∧ isSpace c = false
      ∧ next? c (cs ++ rest) = some (scalar (.number l), rest) := by
  obtain ⟨c, cs, hw, hc⟩ := h.head
  have hnumber := number?_written hrest h
  rw [hw, List.cons_append] at hnumber
  have starts : numberStarts.all (fun c => isSpace c = false ∧ mark? c = none ∧ c ≠ '"' ∧ c ≠ 'n'
      ∧ c ≠ 't' ∧ c ≠ 'f') = true := by
    decide
  obtain ⟨hspace, hmark, hq, hn, ht, hf⟩ :=
    of_decide_eq_true (List.all_eq_true.mp starts c hc)
  refine ⟨c, cs, hw, hspace, ?_⟩
  simp [next?, hmark, scalar?, hq, hn, ht, hf, hnumber]

theorem Literal.IsGrammatical.le_toNat {l : Literal} (h : l.IsGrammatical) {c : Char}
    (hc : c ∈ l.written) : 0x20 ≤ c.toNat := by
  have hdigits : ∀ {cs : List Char}, AreDigits cs → c ∈ cs → 0x20 ≤ c.toNat := by
    intro cs hcs hmem
    exact Nat.le_trans (by decide) (isDigit_iff.mp (hcs.2 c hmem)).1
  rw [written_eq, List.mem_append, List.mem_append, List.mem_append] at hc
  rcases hc with hc | hc | hc | hc
  · split at hc
    · rw [List.mem_singleton.mp hc]
      decide
    · cases hc
  · exact hdigits h.whole hc
  · cases hf : l.fraction with
    | none =>
        rw [hf] at hc
        cases hc
    | some digits =>
        rw [hf, writtenFraction, List.mem_cons] at hc
        rcases hc with rfl | hc
        · decide
        · exact hdigits (h.fraction digits hf) hc
  · cases he : l.exponent with
    | none =>
        rw [he] at hc
        cases hc
    | some e =>
        rw [he, writtenExponent, List.mem_cons, List.mem_cons] at hc
        rcases hc with rfl | rfl | hc
        · decide
        · split <;> decide
        · exact hdigits (h.exponent e he) hc

section Numbers

theorem Literal.ofInt_isGrammatical (n : Int) : (Literal.ofInt n).IsGrammatical where
  whole := areDigits_toDigits _
  leadingZero := by
    intro hz
    by_cases hn : n.natAbs = 0
    · simp [ofInt, hn]
    · exact absurd hz (head?_toDigits_ne_zero hn)
  fraction := by simp [ofInt]
  exponent := by simp [ofInt]

/-- An integer is read as it was written. -/
theorem Literal.toInt?_ofInt (n : Int) : (Literal.ofInt n).toInt? = some n := by
  simp only [toInt?, ofInt, Option.isSome_none, Bool.or_self, Bool.false_eq_true, if_false,
    ofDigits_toDigits, decide_eq_true_eq]
  split
  · next hn => rw [if_neg (by omega)]; congr 1; omega
  · next hn => congr 1; omega

/-- However it is laid out, a decimal has a literal of the grammar. -/
theorem Layout.literal_isGrammatical (layout : Layout) (negative : Bool) (decimal : Decimal) :
    (layout.literal negative decimal).IsGrammatical := by
  obtain ⟨hne, hdigits⟩ := areDigits_toDigits decimal.digits
  have hzero : AreDigits ['0'] := areDigits_toDigits 0
  have hzeros : ∀ n, ∀ c ∈ List.replicate n '0', isDigit c = true := by
    intro n c hc
    rw [List.eq_of_mem_replicate hc]
    decide
  unfold literal
  dsimp only
  split
  -- Zero is written with one zero on each side of the point.
  · exact ⟨hzero, by simp, by simp [hzero], by simp⟩
  next hnonzero =>
  have hhead := head?_toDigits_ne_zero hnonzero
  obtain ⟨d, ds, hd⟩ := List.exists_cons_of_ne_nil hne
  rw [hd] at hne hdigits hhead ⊢
  split
  -- One digit, the further ones and the exponent.
  · refine ⟨⟨by simp, ?_⟩, by simp, ?_, ?_⟩
    · intro c hc
      exact hdigits c (List.mem_of_mem_take hc)
    · intro digits hf
      split at hf
      · cases hf
      · next hds =>
          cases hf
          exact ⟨by simpa using hds, fun c hc => hdigits c (List.mem_of_mem_tail hc)⟩
    · rintro e he
      cases he
      exact areDigits_toDigits _
  split
  -- Zeros between the point and the digits.
  · refine ⟨hzero, by simp, ?_, by simp⟩
    rintro digits hf
    cases hf
    refine ⟨by simp, fun c hc => ?_⟩
    rcases List.mem_append.mp hc with hc | hc
    · exact hzeros _ c hc
    · exact hdigits c hc
  -- The digits on both sides of the point, filled up with zeros.
  · next hsize =>
      obtain ⟨size, hs⟩ : ∃ n, (((d :: ds).length : Int) + decimal.exponent).toNat = n + 1 :=
        ⟨_, (Nat.succ_pred_eq_of_pos (by omega)).symm⟩
      rw [hs, List.take_succ_cons, List.cons_append]
      refine ⟨⟨by simp, fun c hc => ?_⟩, fun hz => absurd hz hhead, ?_, by simp⟩
      · rw [← List.cons_append, ← List.take_succ_cons, List.mem_append] at hc
        rcases hc with hc | hc
        · exact hdigits c (List.mem_of_mem_take hc)
        · exact hzeros _ c hc
      · rintro digits hf
        cases hf
        split
        · exact hzero
        · next hfraction =>
            exact ⟨by simpa using hfraction, fun c hc => hdigits c (List.mem_of_mem_drop hc)⟩

end Numbers

end MetadataHarvest.Json
