import MetadataHarvest.Proofs.Calendar.Grammar

/-!
# The texts in which a year is read

A year is read from a timestamp, a date with or without a time of day, a date with a zone, a year
with a month and a bare year, and from nothing else. The readers of all these but the timestamp
take the loose manner, in which numbers are shorter or have blanks before them, the month after a
hyphen may be missing, and a zone needs no digits.
-/

namespace MetadataHarvest.Calendar

open Number Text

/-- The zone of a date: Z, or a sign and two digits on either side of a colon. Loosely, any two
bytes will do. -/
inductive IsZoneText (manner : Manner) : List Char → Prop
  | utc : IsZoneText manner ['Z']
  | offset {sign : Char} {hours minutes : List Char} (hsign : sign = '+' ∨ sign = '-')
      (hhours : byteLength hours = 2) (hminutes : byteLength minutes = 2)
      (hdigits : manner = .loose ∨ ∀ c ∈ hours ++ minutes, isDigit c = true) :
      IsZoneText manner (sign :: (hours ++ ':' :: minutes))

/-- The month after a year: two digits. Loosely, it may be missing, or be a number of any width
that may have a plus sign. -/
inductive IsMonthText (manner : Manner) : List Char → Prop
  | plain {ds : List Char} {n : Nat} (hds : IsNumeral ds n) (hlow : 1 ≤ n) (hhigh : n ≤ 12)
      (hwidth : manner = .loose ∨ ds.length = 2) : IsMonthText manner ds
  | plus {ds : List Char} {n : Nat} (hds : IsNumeral ds n) (hlow : 1 ≤ n) (hhigh : n ≤ 12)
      (hloose : manner = .loose) : IsMonthText manner ('+' :: ds)
  | missing (hloose : manner = .loose) : IsMonthText manner []

/-- The zone of a timestamp, with an offset of less than a day. -/
inductive IsTimestampZone : List Char → Prop
  | utc {letter : Char} (hletter : letter = 'Z' ∨ letter = 'z') : IsTimestampZone [letter]
  | offset {sign : Char} {time : List Char} (hsign : sign = '+' ∨ sign = '-' ∨ sign = '\u2212')
      (htime : IsClock .exact time) : IsTimestampZone (sign :: time)

/-- The letter, of either case, or the blank between a date and a time. -/
def IsTimeMark (c : Char) : Prop := c = 'T' ∨ c = 't' ∨ c = ' '

/-- An internet timestamp, which has seconds, a zone and no sign. -/
inductive IsTimestamp : List Char → Prop
  | intro {date time second zone : List Char} {mark : Char} {d : Date}
      (hdate : IsDateText .exact date d) (hplain : ∀ c ∈ date.head?, isDigit c = true)
      (hmark : IsTimeMark mark) (htime : IsClock .exact time) (hsecond : IsSeconds .exact second)
      (hzone : IsTimestampZone zone) :
      IsTimestamp (date ++ mark :: (time ++ ':' :: (second ++ zone)))

/-- A bare year: four digits or more, perhaps after a minus sign, that make no larger number than
a year can be. -/
inductive IsBareYear : List Char → Prop
  | plain {ds : List Char} {n : Nat} (hds : IsNumeral ds n) (hleast : 4 ≤ ds.length)
      (hn : n ≤ greatestYear) : IsBareYear ds
  | minus {ds : List Char} {n : Nat} (hds : IsNumeral ds n) (hleast : 4 ≤ ds.length)
      (hn : n ≤ greatestYear) : IsBareYear ('-' :: ds)

/-- A month after a hyphen, or nothing. -/
inductive IsMonthOrNone (manner : Manner) : List Char → Prop
  | none : IsMonthOrNone manner []
  | month {month : List Char} (hmonth : IsMonthText manner month) :
      IsMonthOrNone manner ('-' :: month)

/-- The texts in which a year is read. -/
inductive IsYearText (manner : Manner) : List Char → Prop
  | partialDate {year month : List Char} (hyear : IsBareYear year)
      (hmonth : IsMonthOrNone manner month) : IsYearText manner (year ++ month)
  | date {date : List Char} {d : Date} (hdate : IsDateText manner date d) : IsYearText manner date
  | zonedDate {front zone : List Char} {d : Date} (hfront : byteLength front = 10)
      (hdate : IsDateText manner (trim front) d) (hzone : IsZoneText manner zone)
      (htrim : manner = .loose ∨ trim front = front) : IsYearText manner (front ++ zone)
  | dateTime {date time : List Char} {d : Date} (hdate : IsDateText manner date d)
      (htime : IsTimeText manner time) : IsYearText manner (date ++ 'T' :: time)
  | timestamp {cs : List Char} (hcs : IsTimestamp cs) : IsYearText manner cs

variable {manner : Manner} {cs rest zone : List Char} {n : Nat} {y : Int} {d : Date}

section Zones

theorem isDateZone_iff : isDateZone cs = true ↔ IsZoneText .loose cs := by
  constructor
  · intro h
    unfold isDateZone at h
    split at h
    · exact .utc
    · next sign rest _ =>
        simp only [Bool.and_eq_true, Bool.or_eq_true, beq_iff_eq, decide_eq_true_eq,
          Option.map_eq_some_iff, Prod.exists, List.head?_eq_some_iff] at h
        obtain ⟨⟨hsign, hlength⟩, hours, back, hsplit, minutes, rfl⟩ := h
        obtain rfl := append_of_splitAtByte? hsplit
        have hhours := byteLength_of_splitAtByte? hsplit
        have hone : sign.utf8Size = 1 := by rcases hsign with rfl | rfl <;> decide
        have hcolon : ':'.utf8Size = 1 := by decide
        rw [byteLength_cons, byteLength_append, byteLength_cons] at hlength
        exact .offset hsign hhours (by omega) (.inl rfl)
    · cases h
  · intro h
    cases h with
    | utc => rfl
    | @offset sign hours minutes hsign hhours hminutes _ =>
        have hsplit := splitAtByte?_byteLength hours (':' :: minutes)
        have hcolon : ':'.utf8Size = 1 := by decide
        have hone : sign.utf8Size = 1 := by rcases hsign with rfl | rfl <;> decide
        have hlength : byteLength (sign :: (hours ++ ':' :: minutes)) = 6 := by
          rw [byteLength_cons, byteLength_append, byteLength_cons]
          omega
        rw [hhours] at hsplit
        unfold isDateZone
        split
        · rfl
        · next heq =>
            obtain ⟨rfl, rfl⟩ := List.cons.inj heq
            simpa [hlength, hsplit] using hsign
        · next heq => cases heq

theorem isZone_iff : Timestamp.isZone cs = true ↔ IsTimestampZone cs := by
  constructor
  · intro h
    unfold Timestamp.isZone at h
    split at h
    · exact .utc (.inl rfl)
    · exact .utc (.inr rfl)
    · next sign rest _ _ =>
        simp only [Bool.and_eq_true, Bool.or_eq_true, beq_iff_eq, or_assoc] at h
        obtain ⟨hsign, hoffset⟩ := h
        obtain ⟨time, htime, rfl⟩ := exists_of_afterClock? exists_of_timestampField? hoffset
        rw [List.append_nil]
        exact .offset hsign htime
    · cases h
  · intro h
    cases h with
    | utc hletter => rcases hletter with rfl | rfl <;> rfl
    | @offset sign time hsign htime =>
        have hclock := afterClock?_of_isClock_exact htime []
        rw [List.append_nil] at hclock
        rcases hsign with rfl | rfl | rfl
        · exact Bool.and_eq_true_iff.mpr ⟨rfl, beq_iff_eq.mpr hclock⟩
        · exact Bool.and_eq_true_iff.mpr ⟨rfl, beq_iff_eq.mpr hclock⟩
        · exact Bool.and_eq_true_iff.mpr ⟨rfl, beq_iff_eq.mpr hclock⟩

end Zones

section Timestamps

/-- Without a sign the year of a date in the exact manner has four digits. -/
theorem IsDateYear.exists_numeral {year : List Char} (h : IsDateYear .exact year y)
    (hplain : ∀ c ∈ (year ++ rest).head?, isDigit c = true) :
    ∃ n : Nat, IsNumeral year n ∧ year.length = 4 ∧ y = n := by
  cases h with
  | plain hblanks hds _ hleast =>
      obtain rfl := hblanks.2.resolve_left nofun
      exact ⟨_, hds, hleast.resolve_left nofun, rfl⟩
  | plus hblanks _ _ =>
      obtain rfl := hblanks.2.resolve_left nofun
      exact absurd (hplain '+' rfl) (by decide)
  | minus hblanks _ _ =>
      obtain rfl := hblanks.2.resolve_left nofun
      exact absurd (hplain '-' rfl) (by decide)

theorem IsTimestampZone.head? (h : IsTimestampZone zone) :
    ∀ c ∈ zone.head?, c ≠ '.' ∧ isDigit c = false := by
  cases h with
  | utc hletter =>
      rintro c ⟨⟩
      rcases hletter with rfl | rfl <;> decide
  | offset hsign _ =>
      rintro c ⟨⟩
      rcases hsign with rfl | rfl | rfl <;> decide

theorem exists_of_afterFraction (h : Timestamp.afterFraction cs = some rest) :
    ∃ fraction, IsFraction fraction ∧ fraction ++ rest = cs := by
  unfold Timestamp.afterFraction at h
  split at h
  · next body =>
      split at h
      · cases h
      · next hne =>
          obtain ⟨⟩ := h
          refine ⟨_, .digits ⟨by simpa using hne, fun c hc => List.mem_takeWhile_imp hc, rfl⟩, ?_⟩
          rw [List.cons_append, List.takeWhile_append_dropWhile]
  · obtain ⟨⟩ := h
    exact ⟨[], .missing, rfl⟩

theorem timestamp?_of_isTimestamp (h : IsTimestamp cs) : ∃ d, Timestamp.date? cs = some d := by
  cases h with
  | @intro date time second zone mark d hdate hplain hmark htime hsecond hzone =>
      refine ⟨d, ?_⟩
      cases hdate with
      | @intro year month day _ hyear hmonth hday =>
          obtain ⟨n, hds, hlength, hn⟩ := hyear.exists_numeral hplain
          obtain ⟨hhour, hh, hminute, hm⟩ := htime
          obtain ⟨hseconds, hs, hfraction⟩ := hsecond
          have hyear' := fixed?_append hds
          rw [hlength] at hyear'
          have hdate : Date.of? n d.month d.day = some d := Date.of?_eq_some.mpr ⟨hn, rfl, rfl⟩
          have hmark' : mark ≠ 'T' → mark ≠ 't' → mark = ' ' := by
            simpa only [IsTimeMark, or_iff_not_imp_left] using hmark
          have hzone' := isZone_iff.mpr hzone
          simp [Timestamp.date?, hyear', expect, timestampField?_of_isField hmonth d.month_range.2,
            timestampField?_of_isField hday d.day_le_31, hdate, timestampField?_of_isField hhour hh,
            timestampField?_of_isField hminute hm, timestampField?_of_isField hseconds hs,
            afterFraction_append hfraction hzone.head?, hzone']
          exact hmark'

theorem isTimestamp_of_timestamp? (h : Timestamp.date? cs = some d) : IsTimestamp cs := by
  simp only [Timestamp.date?, bind, Option.bind_eq_some_iff, Prod.exists, expect_eq_some_iff] at h
  obtain ⟨n, _, hy, _, rfl, _, _, hm, _, rfl, _, rest, hn, date, hdate, h⟩ := h
  obtain ⟨year, hyear, hlength, rfl⟩ := exists_of_fixed? (by decide) hy
  obtain ⟨month, hmonth, -, rfl⟩ := exists_of_timestampField? hm
  obtain ⟨day, hday, -, rfl⟩ := exists_of_timestampField? hn
  obtain ⟨hvalue, rfl, rfl⟩ := Date.of?_eq_some.mp hdate
  have hyear' : IsDateYear .exact year date.year := by
    have hnone : IsPadding .exact [] := ⟨by simp, .inr rfl⟩
    rw [hvalue]
    exact .plain hnone hyear hlength.le (.inr hlength)
  have hplain (more : List Char) : ∀ c ∈ (year ++ more).head?, isDigit c = true := by
    obtain ⟨c, ds, rfl⟩ := List.exists_cons_of_ne_nil hyear.nonempty
    rintro _ ⟨⟩
    exact hyear.isDigit c List.mem_cons_self
  cases rest with
  | nil => cases h
  | cons mark rest =>
      dsimp only at h
      split at h
      · next hmark =>
          simp only [Option.bind_eq_some_iff, Option.some.injEq, exists_eq_left', Prod.exists,
            expect_eq_some_iff, Option.ite_none_right_eq_some] at h
          obtain ⟨_, _, hread, _, rfl, _, _, hread', _, rfl, _, _, hread'', zone, hrest, hzone,
            -⟩ := h
          obtain ⟨hour, hhour, hh, rfl⟩ := exists_of_timestampField? hread
          obtain ⟨minute, hminute, hmin, rfl⟩ := exists_of_timestampField? hread'
          obtain ⟨second, hsecond, hs, rfl⟩ := exists_of_timestampField? hread''
          obtain ⟨fraction, hfraction, rfl⟩ := exists_of_afterFraction hrest
          have hstamp := IsTimestamp.intro (.intro hyear' hmonth hday) (hplain _)
            (by simpa [IsTimeMark, or_assoc] using hmark) (.intro hhour hh hminute hmin)
            (.intro hsecond hs hfraction) (isZone_iff.mp hzone)
          simpa using hstamp
      · cases h

end Timestamps

section PartialDates

theorem isMonth_iff : isMonth cs = true ↔ IsMonthText .loose cs := by
  constructor
  · intro h
    dsimp only [isMonth] at h
    split at h
    all_goals
      simp only [Bool.or_eq_true, List.isEmpty_iff, Bool.and_eq_true, Bool.not_eq_true',
        List.isEmpty_eq_false_iff, List.all_eq_true, decide_eq_true_eq] at h
    · obtain ⟨⟨⟨hne, hall⟩, hlow⟩, hhigh⟩ := h.resolve_left (List.cons_ne_nil _ _)
      exact .plus ⟨hne, hall, rfl⟩ hlow hhigh rfl
    · rcases h with rfl | ⟨⟨⟨hne, hall⟩, hlow⟩, hhigh⟩
      · exact .missing rfl
      · exact .plain ⟨hne, hall, rfl⟩ hlow hhigh (.inl rfl)
  · intro h
    cases h with
    | missing _ => rfl
    | plus hds hlow hhigh _ =>
        simpa [isMonth, hds.nonempty, hds.value, hlow, hhigh] using hds.isDigit
    | plain hds hlow hhigh _ =>
        dsimp only [isMonth]
        split
        · exact absurd (List.append_nil _) (append_ne_cons hds (by decide) [] _)
        · simpa [hds.nonempty, hds.value, hlow, hhigh] using hds.isDigit

theorem yearMonth?_isSome_iff : (yearMonth? cs).isSome = true ↔ ∃ year n month,
    IsNumeral year n ∧ 4 ≤ year.length ∧ (n : Int) ≤ greatestYear ∧
      IsMonthOrNone .loose month ∧ year ++ month = cs := by
  constructor
  · intro h
    obtain ⟨y, h⟩ := Option.isSome_iff_exists.mp h
    simp only [yearMonth?, splitHyphen, Option.ite_none_right_eq_some, Bool.and_eq_true,
      List.all_eq_true] at h
    obtain ⟨⟨⟨⟨hleast, hall⟩, hmonth⟩, hn⟩, -⟩ := h
    have hleast := of_decide_eq_true hleast
    refine ⟨_, _, cs.dropWhile (· ≠ '-'), ⟨List.length_pos_iff.mp (by omega), hall, rfl⟩, hleast,
      of_decide_eq_true hn, ?_, List.takeWhile_append_dropWhile⟩
    cases hrest : cs.dropWhile (· ≠ '-') with
    | nil => exact .none
    | cons c month =>
        have hc := List.head?_dropWhile_not (· ≠ '-') cs
        rw [hrest] at hc hmonth
        obtain rfl : c = '-' := by simpa using hc
        exact .month (isMonth_iff.mp hmonth)
  · rintro ⟨year, n, month, hds, hleast, hn, hmonth, rfl⟩
    have hall : year.all isDigit = true := List.all_eq_true.mpr hds.isDigit
    have hmonth' : isMonth (month.drop 1) = true := by
      cases hmonth with
      | none => rfl
      | month hmonth => exact isMonth_iff.mpr hmonth
    have hhyphen : ∀ c ∈ month.head?, c = '-' := by
      cases hmonth with
      | none => simp
      | month _ => simp
    rw [yearMonth?, splitHyphen_append hds hhyphen]
    simp only [hall, hds.value, hmonth', hleast, hn, decide_true, Bool.and_self]
    rfl

theorem partialYear?_isSome_iff : (partialYear? cs).isSome = true ↔
    ∃ year month, IsBareYear year ∧ IsMonthOrNone .loose month ∧ year ++ month = cs := by
  unfold partialYear?
  constructor
  · intro h
    split at h
    · rw [Option.isSome_map] at h
      obtain ⟨year, n, month, hds, hleast, hn, hmonth, rfl⟩ := yearMonth?_isSome_iff.mp h
      exact ⟨_, month, .minus hds hleast hn, hmonth, rfl⟩
    · obtain ⟨year, n, month, hds, hleast, hn, hmonth, rfl⟩ := yearMonth?_isSome_iff.mp h
      exact ⟨_, month, .plain hds hleast hn, hmonth, rfl⟩
  · rintro ⟨year, month, hyear, hmonth, rfl⟩
    cases hyear with
    | plain hds hleast hn =>
        split
        · next heq => exact absurd heq (append_ne_cons hds (by decide) month _)
        · exact yearMonth?_isSome_iff.mpr ⟨_, _, _, hds, hleast, hn, hmonth, rfl⟩
    | minus hds hleast hn =>
        have hread := yearMonth?_isSome_iff.mpr ⟨_, _, _, hds, hleast, hn, hmonth, rfl⟩
        rwa [← Option.isSome_map (f := (- ·))] at hread

end PartialDates

section Years

theorem exists_tenByteDate?_iff : (∃ d, tenByteDate? cs = some (d, zone)) ↔
    ∃ front d, byteLength front = 10 ∧ IsDateText .loose (trim front) d ∧ front ++ zone = cs := by
  constructor
  · rintro ⟨d, h⟩
    simp only [tenByteDate?, bind, Option.bind_eq_some_iff, Prod.exists] at h
    obtain ⟨front, back, hsplit, date, hdate, ⟨⟩⟩ := h
    obtain rfl := append_of_splitAtByte? hsplit
    exact ⟨front, d, byteLength_of_splitAtByte? hsplit, calendarDate?_eq_some_iff.mp hdate, rfl⟩
  · rintro ⟨front, d, hfront, hdate, rfl⟩
    have hsplit := splitAtByte?_byteLength front zone
    rw [hfront] at hsplit
    exact ⟨d, by simp [tenByteDate?, hsplit, calendarDate?_eq_some_iff.mpr hdate]⟩

/-- A text in which a year is read is one of the loose manner. -/
theorem isYearText_of_year? (h : (year? cs).isSome = true) : IsYearText .loose (trim cs) := by
  simp only [year?, Option.orElse_eq_or, Option.isSome_or, Option.isSome_map, Bool.or_eq_true,
    or_assoc] at h
  rcases h with hstamp | htime | hdate | hzoned | hpartial
  · obtain ⟨d, hd⟩ := Option.isSome_iff_exists.mp hstamp
    exact .timestamp (isTimestamp_of_timestamp? hd)
  · obtain ⟨date, time, d, hdate, htime, hsplit⟩ :=
      dateTime?_isSome_iff.mp (Option.isSome_iff_exists.mp htime)
    rw [← hsplit]
    exact .dateTime hdate htime
  · obtain ⟨d, hd⟩ := Option.isSome_iff_exists.mp hdate
    rw [calendarDate?_eq_some_iff, trim_trim] at hd
    exact .date hd
  · split at hzoned
    · next d zone hread =>
        obtain ⟨front, d, hfront, hdate, hsplit⟩ := exists_tenByteDate?_iff.mp ⟨d, hread⟩
        split at hzoned
        · next hzone =>
            rw [← hsplit]
            exact .zonedDate hfront hdate (isDateZone_iff.mp hzone) (.inl rfl)
        · cases hzoned
    · cases hzoned
  · obtain ⟨year, month, hyear, hmonth, hsplit⟩ := partialYear?_isSome_iff.mp hpartial
    rw [← hsplit]
    exact .partialDate hyear hmonth

theorem year?_of_isYearText (h : IsYearText .loose (trim cs)) : (year? cs).isSome = true := by
  have htrim := trim_trim cs
  simp only [year?, Option.orElse_eq_or, Option.isSome_or, Option.isSome_map, Bool.or_eq_true]
  generalize trim cs = value at h htrim
  cases h with
  | partialDate hyear hmonth =>
      apply Or.inr
      apply Or.inr
      exact partialYear?_isSome_iff.mpr ⟨_, _, hyear, hmonth, rfl⟩
  | date hdate =>
      rw [← htrim, ← calendarDate?_eq_some_iff] at hdate
      apply Or.inl
      apply Or.inr
      rw [hdate]
      rfl
  | zonedDate hfront hdate hzone _ =>
      obtain ⟨d, hread⟩ := exists_tenByteDate?_iff.mpr ⟨_, _, hfront, hdate, rfl⟩
      apply Or.inr
      apply Or.inl
      rw [hread]
      simp [isDateZone_iff.mpr hzone]
  | dateTime hdate htime =>
      apply Or.inl
      apply Or.inl
      apply Or.inr
      rw [Option.isSome_iff_exists, dateTime?_isSome_iff]
      exact ⟨_, _, _, hdate, htime, rfl⟩
  | timestamp hcs =>
      apply Or.inl
      apply Or.inl
      apply Or.inl
      exact Option.isSome_iff_exists.mpr (timestamp?_of_isTimestamp hcs)

end Years

end MetadataHarvest.Calendar
