import MetadataHarvest.Proofs.Calendar.YearForm

/-!
# The date that leads a text

A date that is followed by something else is cut out of the text after ten bytes. This is where a
date with a year of four digits ends. With a sign the date is longer and loses its last digit or
more: what is left is a date only when its day still has a digit, and then it is another day.
-/

namespace MetadataHarvest.Calendar

open Number Text

namespace Date

/-- The year as it is written in front of the date. -/
def writtenYear (d : Date) : List Char :=
  (if d.year < 0 then ['-'] else if 9999 < d.year then ['+'] else []) ++ padded 4 d.year.natAbs

theorem written_eq_writtenYear (d : Date) :
    d.written = d.writtenYear ++ '-' :: (padded 2 d.month ++ '-' :: padded 2 d.day) := by
  simp only [written, writtenYear, List.append_assoc, List.cons_append]

end Date

/-- A day with two digits in a year before 0 that has four, and something other than blanks after
the date. -/
def IsCutShort (d : Date) (suffix : List Char) : Prop :=
  -9999 ≤ d.year ∧ d.year < 0 ∧ 10 ≤ d.day ∧ ∃ c ∈ suffix, isBlank c = false

variable {d : Date} {suffix rest : List Char}

section Written

theorem isDateChar_writtenYear (d : Date) : ∀ c ∈ d.writtenYear, IsDateChar c := by
  rw [Date.writtenYear, List.forall_mem_append]
  refine ⟨?_, isDateChar_padded 4 _⟩
  intro c hc
  right
  split at hc
  · rw [List.mem_singleton.mp hc]
    decide
  · split at hc
    · rw [List.mem_singleton.mp hc]
      decide
    · cases hc

theorem isDateChar_written_all (d : Date) : ∀ c ∈ d.written, IsDateChar c := by
  simp only [d.written_eq_writtenYear, List.forall_mem_append, List.forall_mem_cons]
  exact ⟨isDateChar_writtenYear d, .inr (by decide), isDateChar_padded 2 _, .inr (by decide),
    isDateChar_padded 2 _⟩

/-- Of a date and what follows it, trimming takes the blanks at the very end. -/
theorem trim_written_append (d : Date) (suffix : List Char) :
    trim (d.written ++ suffix) = d.written ++ dropWhileEnd isBlank suffix := by
  have hchars := isDateChar_written_all d
  have hfront : (d.written ++ suffix).dropWhile isBlank = d.written ++ suffix := by
    have hne : d.written ≠ [] := by simp [d.written_eq_writtenYear]
    obtain ⟨c, cs, hcs⟩ := List.exists_cons_of_ne_nil hne
    rw [hcs, List.forall_mem_cons] at hchars
    rw [hcs, List.cons_append, List.dropWhile_cons_of_neg]
    simp [hchars.1.isBlank]
  have hback : dropWhileEnd isBlank d.written = d.written := by
    rw [dropWhileEnd_eq_rdropWhile, List.rdropWhile_eq_self_iff]
    exact fun hne => by simp [(hchars _ (List.getLast_mem hne)).isBlank]
  rw [trim, trimWhile, hfront]
  simp only [dropWhileEnd, List.reverse_append, List.dropWhile_append] at hback ⊢
  split
  · next hnil => rw [hback, List.isEmpty_iff.mp hnil, List.reverse_nil, List.append_nil]
  · rw [List.reverse_append, List.reverse_reverse]

/-- After a sign a year is read with all its digits. -/
theorem takeNumber_year (d : Date) (rest : List Char) :
    let year := Date.padded 4 d.year.natAbs ++ '-' :: rest
    takeNumber year.length year = some (d.year.natAbs, '-' :: rest) := by
  apply takeNumber_append_of_le (isNumeral_padded 4 _)
  · rw [List.length_append]
    exact Nat.le_add_right _ _
  · exact isDigit_of_mark '-' (by decide) rest

/-- A year is read back with its sign. -/
theorem lenientYear?_writtenYear (d : Date) (rest : List Char) :
    Lenient.year? (d.writtenYear ++ '-' :: rest) = some (d.year, '-' :: rest) := by
  by_cases hnegative : d.year < 0
  · have hyear : -((d.year.natAbs : Nat) : Int) = d.year := by omega
    rw [Date.writtenYear, if_pos hnegative, List.singleton_append, List.cons_append,
      lenientYear?_minus, takeNumber_year d rest]
    simp only [Option.map_some, hyear]
  · by_cases hlarge : 9999 < d.year
    · have hyear : ((d.year.natAbs : Nat) : Int) = d.year := by omega
      rw [Date.writtenYear, if_neg hnegative, if_pos hlarge, List.singleton_append,
        List.cons_append, lenientYear?_plus, takeNumber_year d rest]
      simp only [Option.map_some, hyear]
    · have hyear : HasFourDigits d := ⟨by omega, by omega⟩
      rw [Date.writtenYear, if_neg hnegative, if_neg hlarge, List.nil_append]
      exact lenientYear?_padded hyear _

/-- What is left of a date is a date when the day still has a digit. -/
theorem lenientDate?_writtenYear (d : Date) {day : List Char} {n : Nat} (hday : IsNumeral day n)
    (hlength : day.length ≤ 2) (hn : n ≤ 31) (hrest : ∀ c ∈ rest.head?, isDigit c = false) :
    Lenient.date? (d.writtenYear ++ '-' :: (Date.padded 2 d.month ++ '-' :: (day ++ rest))) =
      (Date.of? d.year d.month n).map (·, rest) := by
  have hmonth := d.month_range.2
  have hfield : Lenient.field? 31 (day ++ rest) = some (n, rest) := by
    simp [Lenient.field?, dropWhile_isBlank_append hday,
      takeNumber_append_of_le hday hlength hrest, hn]
  rw [Option.map_eq_bind]
  change _ = (Date.of? d.year d.month n).bind fun date => some (date, rest)
  simp [Lenient.date?, lenientYear?_writtenYear, expect, field?_padded hmonth (by omega), hfield]

theorem lenientDate?_written_append (d : Date)
    (hsuffix : ∀ c ∈ suffix.head?, isDigit c = false) :
    Lenient.date? (d.written ++ suffix) = some (d, suffix) := by
  have hday := d.day_le_31
  have hread := lenientDate?_writtenYear d (isNumeral_padded 2 d.day)
    (length_padded_two (show d.day < 100 by omega)).le hday hsuffix
  rw [Date.of?_self, Option.map_some] at hread
  rw [d.written_eq_writtenYear]
  simpa only [List.append_assoc, List.cons_append] using hread

end Written

section Cut

theorem length_writtenYear_of_neg (h : d.year < 0) :
    d.writtenYear.length = 1 + (Date.padded 4 d.year.natAbs).length := by
  rw [Date.writtenYear, if_pos h, List.length_append, List.length_singleton]

theorem length_writtenYear_of_lt (h : 9999 < d.year) :
    d.writtenYear.length = 1 + (Date.padded 4 d.year.natAbs).length := by
  rw [Date.writtenYear, if_neg (by omega), if_pos h, List.length_append, List.length_singleton]

/-- A year with more than four digits has five or six. -/
theorem length_padded_year_of_lt (h : 9999 < d.year.natAbs) :
    (Date.padded 4 d.year.natAbs).length = 5 ∨ (Date.padded 4 d.year.natAbs).length = 6 := by
  have hrange := d.year_range
  have hfirst : firstYear = -262143 := rfl
  have hlast : lastYear = 262142 := rfl
  have hfour : (Nat.toDigits 10 d.year.natAbs).length ≤ 4 ↔ d.year.natAbs < 10 ^ 4 :=
    Nat.length_toDigits_le_iff (by decide) (by decide)
  have hsix : (Nat.toDigits 10 d.year.natAbs).length ≤ 6 ↔ d.year.natAbs < 10 ^ 6 :=
    Nat.length_toDigits_le_iff (by decide) (by decide)
  rw [Date.padded, List.length_append, List.length_replicate]
  omega

/-- Ten bytes of a longer date hold the front of it. -/
theorem tenByteDate?_append {front back : List Char} (hchars : ∀ c ∈ front, IsDateChar c)
    (hlength : front.length = 10) :
    tenByteDate? (front ++ back) = (calendarDate? front).map (·, back) := by
  have hsplit := splitAtByte?_append hchars back
  rw [hlength] at hsplit
  have hdate : tenByteDate? (front ++ back) =
      (calendarDate? front).bind fun date => some (date, back) := by
    simp [tenByteDate?, hsplit]
  rw [hdate]
  exact Option.map_eq_bind.symm

theorem tenByteDate?_eq_none {front back : List Char} (hchars : ∀ c ∈ front, IsDateChar c)
    (hlength : front.length = 10) (hread : Lenient.date? front = none) :
    tenByteDate? (front ++ back) = none := by
  rw [tenByteDate?_append hchars hlength, calendarDate?, trim_of_isDateChar hchars, hread]
  rfl

/-- A day of two digits is written as one digit after the other. -/
theorem padded_two_eq_append {n : Nat} (h : n < 100) :
    Date.padded 2 n = Date.padded 1 (n / 10) ++ Date.padded 1 (n % 10) := by
  revert n
  decide

/-- A year with a sign and four digits leaves room for one digit of the day. -/
theorem tenByteDate?_written_signed (hlow : -9999 ≤ d.year) (hhigh : d.year < 0)
    (suffix : List Char) :
    (tenByteDate? (d.written ++ suffix)).map (·.1) = Date.of? d.year d.month (d.day / 10) := by
  have hmonth := d.month_range.2
  have hday := d.day_le_31
  have hfour : (Date.padded 4 d.year.natAbs).length = 4 := by
    apply length_padded (by decide)
    have hpower : Nat.pow 10 4 = 10000 := rfl
    omega
  have hone : (Date.padded 1 (d.day / 10)).length = 1 := by
    apply length_padded (by decide)
    have hpower : Nat.pow 10 1 = 10 := rfl
    omega
  have hwritten : d.written ++ suffix =
      (d.writtenYear ++ '-' :: (Date.padded 2 d.month ++ '-' :: Date.padded 1 (d.day / 10))) ++
        (Date.padded 1 (d.day % 10) ++ suffix) := by
    rw [d.written_eq_writtenYear, padded_two_eq_append (show d.day < 100 by omega)]
    simp only [List.append_assoc, List.cons_append]
  have hchars : ∀ c ∈ d.writtenYear ++
      '-' :: (Date.padded 2 d.month ++ '-' :: Date.padded 1 (d.day / 10)), IsDateChar c := by
    simp only [List.forall_mem_append, List.forall_mem_cons]
    exact ⟨isDateChar_writtenYear d, .inr (by decide), isDateChar_padded 2 _, .inr (by decide),
      isDateChar_padded 1 _⟩
  have hread : Lenient.date? (d.writtenYear ++ '-' :: (Date.padded 2 d.month ++
      '-' :: (Date.padded 1 (d.day / 10) ++ []))) = _ :=
    lenientDate?_writtenYear d (isNumeral_padded 1 (d.day / 10)) (by omega) (by omega) (by simp)
  rw [List.append_nil] at hread
  rw [hwritten, tenByteDate?_append hchars, calendarDate?, trim_of_isDateChar hchars, hread]
  · cases Date.of? d.year d.month (d.day / 10) <;> rfl
  · simp only [List.length_append, List.length_cons, length_writtenYear_of_neg hhigh, hfour, hone,
      length_padded_two (show d.month < 100 by omega)]

/-- With more digits the ten bytes end before the day. -/
theorem tenByteDate?_written_long (hlong : 9999 < d.year.natAbs) (suffix : List Char) :
    tenByteDate? (d.written ++ suffix) = none := by
  have hmonth := d.month_range.2
  have hlength : d.writtenYear.length = 1 + (Date.padded 4 d.year.natAbs).length := by
    by_cases hnegative : d.year < 0
    · exact length_writtenYear_of_neg hnegative
    · exact length_writtenYear_of_lt (by omega)
  have htwo := length_padded_two (show d.month < 100 by omega)
  have hfield := field?_padded hmonth (show d.month < 100 by omega)
  rcases length_padded_year_of_lt hlong with hfive | hsix
  · have hwritten : d.written ++ suffix =
        (d.writtenYear ++ '-' :: (Date.padded 2 d.month ++ ['-'])) ++
          (Date.padded 2 d.day ++ suffix) := by
      simp only [d.written_eq_writtenYear, List.append_assoc, List.cons_append, List.nil_append]
    have hchars : ∀ c ∈ d.writtenYear ++ '-' :: (Date.padded 2 d.month ++ ['-']),
        IsDateChar c := by
      simp only [List.forall_mem_append, List.forall_mem_cons]
      exact ⟨isDateChar_writtenYear d, .inr (by decide), isDateChar_padded 2 _, .inr (by decide),
        by simp⟩
    have hempty : Lenient.field? 31 [] = none := rfl
    have hread : Lenient.date? (d.writtenYear ++ '-' :: (Date.padded 2 d.month ++ ['-'])) =
        none := by
      simp [Lenient.date?, lenientYear?_writtenYear, expect, hfield, hempty]
    have hten : (d.writtenYear ++ '-' :: (Date.padded 2 d.month ++ ['-'])).length = 10 := by
      simp only [List.length_append, List.length_cons, List.length_nil, hlength, hfive, htwo]
    rw [hwritten]
    exact tenByteDate?_eq_none hchars hten hread
  · have hwritten : d.written ++ suffix =
        (d.writtenYear ++ '-' :: Date.padded 2 d.month) ++
          ('-' :: Date.padded 2 d.day ++ suffix) := by
      simp only [d.written_eq_writtenYear, List.append_assoc, List.cons_append]
    have hchars : ∀ c ∈ d.writtenYear ++ '-' :: Date.padded 2 d.month, IsDateChar c := by
      simp only [List.forall_mem_append, List.forall_mem_cons]
      exact ⟨isDateChar_writtenYear d, .inr (by decide), isDateChar_padded 2 _⟩
    have hmonth' := hfield []
    rw [List.append_nil] at hmonth'
    have hread : Lenient.date? (d.writtenYear ++ '-' :: Date.padded 2 d.month) = none := by
      simp [Lenient.date?, lenientYear?_writtenYear, expect, hmonth']
    have hten : (d.writtenYear ++ '-' :: Date.padded 2 d.month).length = 10 := by
      simp only [List.length_append, List.length_cons, hlength, hsix, htwo]
    rw [hwritten]
    exact tenByteDate?_eq_none hchars hten hread

end Cut

section Leading

theorem dropWhileEnd_of_blank (h : ∀ c ∈ suffix, isBlank c = true) :
    dropWhileEnd isBlank suffix = [] := by
  rw [dropWhileEnd_eq_rdropWhile, List.rdropWhile_eq_nil_iff]
  exact h

/-- When something other than blanks follows a date, it still follows after trimming, and the date
is looked for in the first ten bytes. -/
theorem leadingDate?_of_not_blank (d : Date) (hblank : ∃ c ∈ suffix, isBlank c = false)
    (hsuffix : ∀ c ∈ suffix.head?, isDigit c = false) :
    leadingDate? (d.written ++ suffix) =
      (tenByteDate? (d.written ++ dropWhileEnd isBlank suffix)).map (·.1) := by
  obtain ⟨b, hb, hnot⟩ := hblank
  have hne : dropWhileEnd isBlank suffix ≠ [] := by
    rw [dropWhileEnd_eq_rdropWhile, Ne, List.rdropWhile_eq_nil_iff]
    intro hall
    rw [hall b hb] at hnot
    cases hnot
  obtain ⟨c, cs, hcs⟩ := List.exists_cons_of_ne_nil hne
  obtain ⟨more, hmore⟩ := List.rdropWhile_prefix isBlank suffix
  rw [← dropWhileEnd_eq_rdropWhile, hcs] at hmore
  have hread : Lenient.date? (d.written ++ dropWhileEnd isBlank suffix) = some (d, c :: cs) := by
    rw [hcs]
    apply lenientDate?_written_append
    rintro c' ⟨⟩
    exact hsuffix c (by rw [← hmore]; rfl)
  have hwhole : calendarDate? (trim (d.written ++ suffix)) = none := by
    rw [calendarDate?, trim_trim, trim_written_append, hread]
  rw [leadingDate?, hwhole, trim_written_append]

theorem leadingDate?_of_blank (d : Date) (hblank : ∀ c ∈ suffix, isBlank c = true) :
    leadingDate? (d.written ++ suffix) = some d := by
  have hread : Lenient.date? (d.written ++ []) = some (d, []) :=
    lenientDate?_written_append d (by simp)
  have hwhole : calendarDate? (trim (d.written ++ suffix)) = some d := by
    rw [calendarDate?, trim_trim, trim_written_append, dropWhileEnd_of_blank hblank, hread]
  rw [leadingDate?, hwhole]

/-- Without a sign a date has ten bytes. -/
theorem leadingDate?_of_hasFourDigits (hyear : HasFourDigits d)
    (hblank : ∃ c ∈ suffix, isBlank c = false) (hsuffix : ∀ c ∈ suffix.head?, isDigit c = false) :
    leadingDate? (d.written ++ suffix) = some d := by
  rw [leadingDate?_of_not_blank d hblank hsuffix, tenByteDate?_written hyear]
  rfl

theorem IsCutShort.leadingDate? (h : IsCutShort d suffix)
    (hsuffix : ∀ c ∈ suffix.head?, isDigit c = false) :
    ∃ d', leadingDate? (d.written ++ suffix) = some d' ∧ d'.year = d.year ∧ d'.month = d.month ∧
      d'.day = d.day / 10 := by
  obtain ⟨hlow, hhigh, hday, hblank⟩ := h
  have hle := d.day_le
  refine ⟨⟨d.year, d.month, d.day / 10, d.year_range, by omega, by omega⟩, ?_, rfl, rfl, rfl⟩
  rw [leadingDate?_of_not_blank d hblank hsuffix, tenByteDate?_written_signed hlow hhigh,
    Date.of?_eq_some]
  exact ⟨rfl, rfl, rfl⟩

/-- A signed date that keeps no digit of its day is no date. -/
theorem leadingDate?_of_not_isCutShort (hblank : ∃ c ∈ suffix, isBlank c = false)
    (hyear : ¬HasFourDigits d) (hcut : ¬IsCutShort d suffix)
    (hsuffix : ∀ c ∈ suffix.head?, isDigit c = false) :
    leadingDate? (d.written ++ suffix) = none := by
  rw [leadingDate?_of_not_blank d hblank hsuffix]
  by_cases hlong : 9999 < d.year.natAbs
  · rw [tenByteDate?_written_long hlong]
    rfl
  · have hsigned : -9999 ≤ d.year ∧ d.year < 0 := by
      unfold HasFourDigits at hyear
      omega
    have hday : d.day / 10 = 0 := by
      by_contra hne
      exact hcut ⟨hsigned.1, hsigned.2, by omega, hblank⟩
    rw [tenByteDate?_written_signed hsigned.1 hsigned.2, hday, Option.eq_none_iff_forall_ne_some]
    intro d' hd'
    have hzero := (Date.of?_eq_some.mp hd').2.2
    exact absurd d'.day_pos (by omega)

end Leading

/-- When a date is followed by something that does not begin with a digit, the date is found if
only blanks follow it or its year has four digits, and no date is found otherwise, unless the date
is cut short: then another day of the same month is found. -/
theorem leadingDate?_written (d : Date) (suffix : List Char)
    (hsuffix : ∀ c ∈ suffix.head?, isDigit c = false) :
    (leadingDate? (d.written ++ suffix) = some d ↔
        (∀ c ∈ suffix, isBlank c = true) ∨ HasFourDigits d) ∧
      (leadingDate? (d.written ++ suffix) = none ↔
        (∃ c ∈ suffix, isBlank c = false) ∧ ¬HasFourDigits d ∧ ¬IsCutShort d suffix) ∧
      (IsCutShort d suffix → ∃ d', leadingDate? (d.written ++ suffix) = some d' ∧ d' ≠ d ∧
        d'.year = d.year ∧ d'.month = d.month ∧ d'.day = d.day / 10) := by
  by_cases hblank : ∀ c ∈ suffix, isBlank c = true
  · have hnot : ¬∃ c ∈ suffix, isBlank c = false := by
      rintro ⟨c, hc, hne⟩
      rw [hblank c hc] at hne
      cases hne
    have hfound := leadingDate?_of_blank d hblank
    have hcut : ¬IsCutShort d suffix := fun h => hnot h.2.2.2
    simp only [hfound, hnot, hcut, reduceCtorEq, false_and, false_implies, and_true, iff_self,
      true_iff]
    exact .inl hblank
  have hshown : ∃ c ∈ suffix, isBlank c = false := by simpa using hblank
  by_cases hyear : HasFourDigits d
  · have hfound := leadingDate?_of_hasFourDigits hyear hshown hsuffix
    have hcut : ¬IsCutShort d suffix := fun h => absurd hyear.1 (Int.not_le.mpr h.2.1)
    simp [hfound, hyear, hcut]
  by_cases hcut : IsCutShort d suffix
  · obtain ⟨d', hfound, hsame, hmonth, hday⟩ := hcut.leadingDate? hsuffix
    have hother : d' ≠ d := by
      rintro rfl
      have hten := hcut.2.2.1
      omega
    refine ⟨?_, ?_, fun _ => ⟨d', hfound, hother, hsame, hmonth, hday⟩⟩
    · simp [hfound, hother, hblank, hyear]
    · simp [hfound, hcut]
  · have hfound := leadingDate?_of_not_isCutShort hshown hyear hcut hsuffix
    simp [hfound, hblank, hshown, hyear, hcut]

/-- A day of the year 45 BC. -/
def earlyDate : Date := ⟨-44, 3, 15, by decide, by decide, by decide⟩

theorem leadingDate?_written_earlyDate :
    let suffix := "T00:00:00".toList
    (∀ c ∈ suffix.head?, isDigit c = false) ∧ IsCutShort earlyDate suffix ∧
      leadingDate? (earlyDate.written ++ suffix) ≠ some earlyDate ∧
      leadingDate? (earlyDate.written ++ suffix) ≠ none ∧
      ∃ d', leadingDate? (earlyDate.written ++ suffix) = some d' ∧ d' ≠ earlyDate ∧
        d'.year = -44 ∧ d'.month = 3 ∧ d'.day = 1 := by
  intro suffix
  have hsuffix : ∀ c ∈ suffix.head?, isDigit c = false := isDigit_of_mark 'T' (by decide) _
  have hshown : ∃ c ∈ suffix, isBlank c = false := ⟨'T', by decide, by decide⟩
  have hcut : IsCutShort earlyDate suffix := ⟨by decide, by decide, by decide, hshown⟩
  have hyear : ¬HasFourDigits earlyDate := fun h => absurd h.1 (by decide)
  obtain ⟨hsame, hnone, hother⟩ := leadingDate?_written earlyDate suffix hsuffix
  refine ⟨hsuffix, hcut, ?_, fun h => (hnone.mp h).2.2 hcut, hother hcut⟩
  intro h
  rcases hsame.mp h with hblank | hfour
  · exact absurd (hblank 'T' (by decide)) (by decide)
  · exact hyear hfour

/-- Cutting off what follows a date may cut off part of the date. -/
theorem not_leadingDate?_written :
    ¬∀ (d : Date) (suffix : List Char), (∀ c ∈ suffix.head?, isDigit c = false) →
      leadingDate? (d.written ++ suffix) = some d ∨
        leadingDate? (d.written ++ suffix) = none := by
  intro h
  have hread : leadingDate? (earlyDate.written ++ "T00:00:00".toList) =
      some ⟨-44, 3, 1, by decide, by decide, by decide⟩ := by decide +kernel
  have hsuffix : ∀ c ∈ "T00:00:00".toList.head?, isDigit c = false :=
    isDigit_of_mark 'T' (by decide) _
  rcases h earlyDate "T00:00:00".toList hsuffix with hsome | hnone
  · rw [hread] at hsome
    exact absurd hsome (by decide)
  · rw [hread] at hnone
    cases hnone

end MetadataHarvest.Calendar
