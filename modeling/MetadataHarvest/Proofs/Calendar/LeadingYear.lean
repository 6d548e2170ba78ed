import MetadataHarvest.Calendar.Year
import MetadataHarvest.Proofs.Calendar.Numeral
import MetadataHarvest.Proofs.Text.Trim

/-!
# The year that leads a text

Whatever form a date has, its year stands in front. So a year that is read from a text is the number
with which the text starts, and readers that take the text for different forms agree on it.
-/

namespace MetadataHarvest.Calendar

open Number Text

/-- The value of the digits with which a text starts, after a sign or without one. -/
def leadingNumber? (cs : List Char) : Option Int :=
  let (negative, body) := splitSign cs
  let digits := body.takeWhile isDigit
  if digits.isEmpty then none
  else some (if negative then -(ofDigits digits : Int) else ofDigits digits)

/-- A run of digits after a sign or without one, with its value. -/
inductive IsSigned : List Char → Int → Prop
  | plain {ds : List Char} {n : Nat} : IsNumeral ds n → IsSigned ds n
  | plus {ds : List Char} {n : Nat} : IsNumeral ds n → IsSigned ('+' :: ds) n
  | minus {ds : List Char} {n : Nat} : IsNumeral ds n → IsSigned ('-' :: ds) (-n)

/-- The text starts with this number and a hyphen. -/
def StartsWith (cs : List Char) (y : Int) : Prop :=
  ∃ front back, IsSigned front y ∧ front ++ '-' :: back = cs

variable {cs front back rest : List Char} {c : Char} {y : Int} {d : Date}

section Number

theorem splitSign_of_isNumeral {ds : List Char} {n : Nat} (h : IsNumeral ds n)
    (rest : List Char) : splitSign (ds ++ rest) = (false, ds ++ rest) := by
  unfold splitSign
  split
  · next heq => exact absurd heq (append_ne_cons h (by decide) rest _)
  · next heq => exact absurd heq (append_ne_cons h (by decide) rest _)
  · rfl

/-- The number with which a text starts is a run of digits that is followed by no digit. -/
theorem leadingNumber?_append (h : IsSigned front y) (hrest : ∀ c ∈ rest.head?, isDigit c = false) :
    leadingNumber? (front ++ rest) = some y := by
  cases h with
  | plain h =>
      rw [leadingNumber?, splitSign_of_isNumeral h]
      simp [takeWhile_append_of_head? h.isDigit hrest, h.nonempty, h.value]
  | plus h =>
      simp [leadingNumber?, splitSign, takeWhile_append_of_head? h.isDigit hrest, h.nonempty,
        h.value]
  | minus h =>
      simp [leadingNumber?, splitSign, takeWhile_append_of_head? h.isDigit hrest, h.nonempty,
        h.value]

theorem StartsWith.leadingNumber? (h : StartsWith cs y) : leadingNumber? cs = some y := by
  obtain ⟨front, back, hfront, rfl⟩ := h
  apply leadingNumber?_append hfront
  rintro c ⟨⟩
  decide

theorem StartsWith.append (h : StartsWith cs y) (rest : List Char) : StartsWith (cs ++ rest) y := by
  obtain ⟨front, back, hfront, rfl⟩ := h
  exact ⟨front, back ++ rest, hfront, by simp⟩

end Number

section Blanks

theorem dropWhile_isBlank_trim (cs : List Char) : (trim cs).dropWhile isBlank = trim cs :=
  dropWhile_dropWhileEnd_dropWhile isBlank cs

/-- Where no blank stands in front, trimming cuts at the end only. -/
theorem exists_trim_append (h : (front ++ rest).dropWhile isBlank = front ++ rest) :
    ∃ more, trim front ++ more = front := by
  have hfront : front.dropWhile isBlank = front := by
    cases front with
    | nil => rfl
    | cons c front =>
        rw [List.dropWhile_eq_self_iff] at h ⊢
        exact fun _ => h (by simp)
  rw [trim, trimWhile, hfront]
  exact List.rdropWhile_prefix isBlank front

end Blanks

section Readers

theorem expect_eq_some_iff : expect c cs = some rest ↔ cs = c :: rest := by
  cases cs with
  | nil => simp [expect]
  | cons d cs => simp [expect]

theorem isSigned_of_year? (h : Lenient.year? cs = some (y, rest)) :
    ∃ front, IsSigned front y ∧ front ++ rest = cs.dropWhile isBlank := by
  unfold Lenient.year? at h
  split at h
  · next body hbody =>
      obtain ⟨⟨n, rest⟩, hn, ⟨⟩⟩ := Option.map_eq_some_iff.mp h
      obtain ⟨ds, hds, rfl⟩ := isNumeral_of_takeNumber hn
      exact ⟨'-' :: ds, .minus hds, hbody.symm⟩
  · next body hbody =>
      obtain ⟨⟨n, rest⟩, hn, ⟨⟩⟩ := Option.map_eq_some_iff.mp h
      obtain ⟨ds, hds, rfl⟩ := isNumeral_of_takeNumber hn
      exact ⟨'+' :: ds, .plus hds, hbody.symm⟩
  · obtain ⟨⟨n, rest⟩, hn, ⟨⟩⟩ := Option.map_eq_some_iff.mp h
    obtain ⟨ds, hds, hsplit⟩ := isNumeral_of_takeNumber hn
    exact ⟨ds, .plain hds, hsplit⟩

theorem startsWith_of_lenientDate? (h : Lenient.date? cs = some (d, rest)) :
    StartsWith (cs.dropWhile isBlank) d.year := by
  simp only [Lenient.date?, bind, Option.bind_eq_some_iff, Prod.exists, expect_eq_some_iff] at h
  obtain ⟨year, _, hyear, _, rfl, month, _, -, _, -, day, _, -, date, hdate, ⟨⟩⟩ := h
  obtain ⟨front, hfront, hsplit⟩ := isSigned_of_year? hyear
  obtain ⟨rfl, -, -⟩ := Date.of?_eq_some.mp hdate
  exact ⟨front, _, hfront, hsplit⟩

theorem startsWith_of_timestamp? (h : Timestamp.date? cs = some d) : StartsWith cs d.year := by
  simp only [Timestamp.date?, bind, Option.bind_eq_some_iff, Prod.exists, expect_eq_some_iff] at h
  obtain ⟨year, _, hyear, _, rfl, month, _, -, _, -, day, rest, -, date, hdate, h⟩ := h
  -- What follows the date decides only whether it is given at all.
  have hsame : date = d := by
    cases rest with
    | nil => cases h
    | cons c rest =>
        dsimp only at h
        split at h
        · simp only [Option.bind_eq_some_iff, Option.ite_none_right_eq_some, Option.some.injEq] at h
          obtain ⟨_, -, _, -, _, -, _, -, _, -, _, -, _, -, -, hsame⟩ := h
          exact hsame
        · cases h
  obtain ⟨ds, hds, hsplit⟩ := isNumeral_of_fixed? (by decide) hyear
  obtain ⟨hyear, -, -⟩ := Date.of?_eq_some.mp hdate
  rw [← hsame, hyear]
  exact ⟨ds, _, .plain hds, hsplit⟩

theorem startsWith_of_dateTime? (hblank : cs.dropWhile isBlank = cs)
    (h : Lenient.dateTime? cs = some d) : StartsWith cs d.year := by
  simp only [Lenient.dateTime?, bind, Option.bind_eq_some_iff, Prod.exists,
    Option.ite_none_right_eq_some, Option.some.injEq] at h
  obtain ⟨date, rest, hdate, _, -, -, rfl⟩ := h
  rw [← hblank]
  exact startsWith_of_lenientDate? hdate

/-- The texts that are read as calendar dates start with the year, and no blank stands before it. -/
theorem startsWith_of_calendarDate? (h : calendarDate? cs = some d) :
    StartsWith (trim cs) d.year := by
  unfold calendarDate? at h
  split at h
  · next date hdate =>
      obtain ⟨⟩ := h
      have hstart := startsWith_of_lenientDate? hdate
      rwa [dropWhile_isBlank_trim] at hstart
  · cases h

/-- What the first ten bytes hold is trimmed once more, but the text starts with what is left. -/
theorem startsWith_of_tenByteDate? {zone : List Char} (hblank : cs.dropWhile isBlank = cs)
    (h : tenByteDate? cs = some (d, zone)) : StartsWith cs d.year := by
  simp only [tenByteDate?, bind, Option.bind_eq_some_iff, Prod.exists] at h
  obtain ⟨front, back, hsplit, date, hdate, ⟨⟩⟩ := h
  obtain rfl := append_of_splitAtByte? hsplit
  obtain ⟨more, hmore⟩ := exists_trim_append hblank
  rw [← hmore, List.append_assoc]
  exact (startsWith_of_calendarDate? hdate).append (more ++ zone)

theorem exists_numeral_of_yearMonth? (h : yearMonth? cs = some y) :
    ∃ ds n rest, IsNumeral ds n ∧ y = n ∧ ds ++ rest = cs ∧
      ∀ c ∈ rest.head?, isDigit c = false := by
  unfold yearMonth? splitHyphen at h
  dsimp only at h
  split at h
  · next hyear =>
      obtain ⟨⟩ := h
      simp only [Bool.and_eq_true, decide_eq_true_eq, List.all_eq_true] at hyear
      obtain ⟨⟨⟨hlength, hdigits⟩, -⟩, -⟩ := hyear
      refine ⟨_, _, cs.dropWhile (· ≠ '-'), ⟨?_, hdigits, rfl⟩, rfl,
        List.takeWhile_append_dropWhile, ?_⟩
      · rw [← List.length_pos_iff]
        omega
      · intro c hc
        have hhyphen := List.head?_dropWhile_not (· ≠ '-') cs
        rw [Option.mem_def.mp hc] at hhyphen
        obtain rfl : c = '-' := by simpa using hhyphen
        decide
  · cases h

end Readers

theorem leadingNumber?_of_partialYear? (h : partialYear? cs = some y) :
    leadingNumber? cs = some y := by
  unfold partialYear? at h
  split at h
  · obtain ⟨y, hy, rfl⟩ := Option.map_eq_some_iff.mp h
    obtain ⟨ds, n, rest, hds, rfl, rfl, hrest⟩ := exists_numeral_of_yearMonth? hy
    exact leadingNumber?_append (.minus hds) hrest
  · obtain ⟨ds, n, rest, hds, rfl, rfl, hrest⟩ := exists_numeral_of_yearMonth? h
    exact leadingNumber?_append (.plain hds) hrest

/-- A year that is read from a text is the number with which the text starts. -/
theorem leadingNumber?_of_year? (h : year? cs = some y) : leadingNumber? (trim cs) = some y := by
  have hblank := dropWhile_isBlank_trim cs
  simp only [year?, Option.orElse_eq_or, Option.or_eq_some_iff, Option.map_eq_some_iff] at h
  rcases h with ⟨d, (hstamp | ⟨-, htime⟩) | ⟨-, hdate⟩, rfl⟩ | ⟨-, hzoned | ⟨-, hpartial⟩⟩
  · exact (startsWith_of_timestamp? hstamp).leadingNumber?
  · exact (startsWith_of_dateTime? hblank htime).leadingNumber?
  · rw [← trim_trim cs]
    exact (startsWith_of_calendarDate? hdate).leadingNumber?
  · split at hzoned
    · next d zone hdate =>
        obtain ⟨-, ⟨⟩⟩ := Option.ite_none_right_eq_some.mp hzoned
        exact (startsWith_of_tenByteDate? hblank hdate).leadingNumber?
    · cases hzoned
  · exact leadingNumber?_of_partialYear? hpartial

theorem leadingNumber?_of_leadingDate? (h : leadingDate? cs = some d) :
    leadingNumber? (trim cs) = some d.year := by
  unfold leadingDate? at h
  dsimp only at h
  split at h
  · next date hdate =>
      obtain ⟨⟩ := h
      rw [← trim_trim cs]
      exact (startsWith_of_calendarDate? hdate).leadingNumber?
  · obtain ⟨⟨date, zone⟩, hdate, ⟨⟩⟩ := Option.map_eq_some_iff.mp h
    exact (startsWith_of_tenByteDate? (dropWhile_isBlank_trim cs) hdate).leadingNumber?

end MetadataHarvest.Calendar
