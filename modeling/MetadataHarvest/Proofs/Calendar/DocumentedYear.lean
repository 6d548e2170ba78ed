import MetadataHarvest.Proofs.Calendar.YearText

/-!
# The documented forms of a year

A year is documented to be read from a date of the calendar, which a time and a zone may follow,
from a year with a month and from a bare year. A text in the exact manner has one of these forms,
and a year is read from it. The loose manner goes beyond them: a hyphen at the end, a zone without
digits, a year or a month of too few digits.
-/

namespace MetadataHarvest.Calendar

open Number Text

/-- A year of at least four digits, perhaps after a sign. -/
inductive IsFullYear : List Char → Int → Prop
  | plain {ds : List Char} {n : Nat} (hds : IsNumeral ds n) (hleast : 4 ≤ ds.length) :
      IsFullYear ds n
  | plus {ds : List Char} {n : Nat} (hds : IsNumeral ds n) (hleast : 4 ≤ ds.length) :
      IsFullYear ('+' :: ds) n
  | minus {ds : List Char} {n : Nat} (hds : IsNumeral ds n) (hleast : 4 ≤ ds.length) :
      IsFullYear ('-' :: ds) (-n)

/-- A zone, or nothing. -/
inductive IsZoneOrNone : List Char → Prop
  | none : IsZoneOrNone []
  | date {zone : List Char} (hzone : IsZoneText .exact zone) : IsZoneOrNone zone
  | timestamp {zone : List Char} (hzone : IsTimestampZone zone) : IsZoneOrNone zone

/-- A time of day after its mark, or nothing. -/
inductive IsTimeOrNone : List Char → Prop
  | none : IsTimeOrNone []
  | time {mark : Char} {time : List Char} (hmark : IsTimeMark mark)
      (htime : IsTimeText .exact time) : IsTimeOrNone (mark :: time)

/-- The documented forms of a date: a year, a year with a month, and a day of the calendar, which a
time and a zone may follow. -/
inductive IsDocumented : List Char → Prop
  | year {year : List Char} {y : Int} (hyear : IsFullYear year y) : IsDocumented year
  | month {year month : List Char} {y : Int} {m : Nat} (hyear : IsFullYear year y)
      (hmonth : IsField .exact month m) (hlow : 1 ≤ m) (hhigh : m ≤ 12) :
      IsDocumented (year ++ '-' :: month)
  | date {year month day time zone : List Char} {y : Int} {m n : Nat} (hyear : IsFullYear year y)
      (hmonth : IsField .exact month m) (hday : IsField .exact day n) (hlow : 0 < n)
      (hhigh : n ≤ daysInMonth y m) (htime : IsTimeOrNone time) (hzone : IsZoneOrNone zone) :
      IsDocumented (year ++ '-' :: (month ++ '-' :: (day ++ (time ++ zone))))

variable {manner : Manner} {cs date time zone : List Char} {n : Nat} {y : Int} {d : Date}

section Loose

theorem IsPadding.loose (h : IsPadding manner cs) : IsPadding .loose cs :=
  ⟨h.1, .inl rfl⟩

theorem IsField.loose (h : IsField manner cs n) : IsField .loose cs n := by
  cases h with
  | intro hblanks hds hmost _ => exact .intro hblanks.loose hds hmost (.inl rfl)

theorem IsDateYear.loose (h : IsDateYear manner cs y) : IsDateYear .loose cs y := by
  cases h with
  | plain hblanks hds hmost _ => exact .plain hblanks.loose hds hmost (.inl rfl)
  | plus hblanks hds _ => exact .plus hblanks.loose hds (.inl rfl)
  | minus hblanks hds _ => exact .minus hblanks.loose hds (.inl rfl)

theorem IsDateText.loose (h : IsDateText manner cs d) : IsDateText .loose cs d := by
  cases h with
  | intro hyear hmonth hday => exact .intro hyear.loose hmonth.loose hday.loose

theorem IsClock.loose (h : IsClock manner cs) : IsClock .loose cs := by
  cases h with
  | intro hhour hh hminute hm => exact .intro hhour.loose hh hminute.loose hm

theorem IsTimeText.loose (h : IsTimeText manner cs) : IsTimeText .loose cs := by
  cases h with
  | minute htime => exact .minute htime.loose
  | second htime hsecond =>
      obtain ⟨hsecond, hs, hfraction⟩ := hsecond
      exact .second htime.loose (.intro hsecond.loose hs hfraction)

theorem IsZoneText.loose (h : IsZoneText manner cs) : IsZoneText .loose cs := by
  cases h with
  | utc => exact .utc
  | offset hsign hhours hminutes _ => exact .offset hsign hhours hminutes (.inl rfl)

theorem IsMonthOrNone.loose (h : IsMonthOrNone manner cs) : IsMonthOrNone .loose cs := by
  cases h with
  | none => exact .none
  | month hmonth =>
      apply IsMonthOrNone.month
      cases hmonth with
      | plain hds hlow hhigh _ => exact .plain hds hlow hhigh (.inl rfl)
      | plus hds hlow hhigh _ => exact .plus hds hlow hhigh rfl
      | missing _ => exact .missing rfl

/-- The loose manner has all texts of the exact one. -/
theorem IsYearText.loose (h : IsYearText manner cs) : IsYearText .loose cs := by
  cases h with
  | partialDate hyear hmonth => exact .partialDate hyear hmonth.loose
  | date hdate => exact .date hdate.loose
  | zonedDate hfront hdate hzone _ => exact .zonedDate hfront hdate.loose hzone.loose (.inl rfl)
  | dateTime hdate htime => exact .dateTime hdate.loose htime.loose
  | timestamp hcs => exact .timestamp hcs

end Loose

section Exact

theorem IsBareYear.exists_isFullYear (h : IsBareYear cs) : ∃ y, IsFullYear cs y := by
  cases h with
  | plain hds hleast _ => exact ⟨_, .plain hds hleast⟩
  | minus hds hleast _ => exact ⟨_, .minus hds hleast⟩

theorem IsDateYear.isFullYear (h : IsDateYear .exact cs y) : IsFullYear cs y := by
  cases h with
  | plain hblanks hds _ hleast =>
      obtain rfl := hblanks.2.resolve_left nofun
      exact .plain hds (hleast.resolve_left nofun).ge
  | plus hblanks hds hleast =>
      obtain rfl := hblanks.2.resolve_left nofun
      exact .plus hds (hleast.resolve_left nofun)
  | minus hblanks hds hleast =>
      obtain rfl := hblanks.2.resolve_left nofun
      exact .minus hds (hleast.resolve_left nofun)

/-- The day of a date exists in its month, so that only the year and the widths are left to see. -/
theorem IsDateText.isDocumented (h : IsDateText .exact date d) (htime : IsTimeOrNone time)
    (hzone : IsZoneOrNone zone) : IsDocumented (date ++ (time ++ zone)) := by
  cases h with
  | intro hyear hmonth hday =>
      have hdocumented :=
        IsDocumented.date hyear.isFullYear hmonth hday d.day_pos d.day_le htime hzone
      simpa using hdocumented

theorem isDocumented_of_isTimestamp (h : IsTimestamp cs) : IsDocumented cs := by
  cases h with
  | intro hdate _ hmark htime hsecond hzone =>
      have hdocumented :=
        hdate.isDocumented (.time hmark (.second htime hsecond)) (.timestamp hzone)
      simpa using hdocumented

theorem IsYearText.isDocumented (h : IsYearText .exact cs) : IsDocumented cs := by
  cases h with
  | @partialDate year month hyear hmonth =>
      obtain ⟨y, hyear⟩ := hyear.exists_isFullYear
      cases hmonth with
      | none =>
          rw [List.append_nil]
          exact .year hyear
      | month hmonth =>
          cases hmonth with
          | plain hds hlow hhigh hwidth =>
              exact .month hyear (isField_of_length hds (hwidth.resolve_left nofun)) hlow hhigh
          | plus _ _ _ hloose => cases hloose
          | missing hloose => cases hloose
  | date hdate =>
      rw [← List.append_nil cs]
      exact hdate.isDocumented .none .none
  | @zonedDate front zone d _ hdate hzone htrim =>
      rw [htrim.resolve_left nofun] at hdate
      exact hdate.isDocumented .none (.date hzone)
  | @dateTime date time d hdate htime =>
      have hdocumented := hdate.isDocumented (.time (.inl rfl) htime) .none
      rwa [List.append_nil] at hdocumented
  | timestamp hcs => exact isDocumented_of_isTimestamp hcs

end Exact

/-- A year is read from the texts of the loose manner and from no others. Those that are exact are
documented forms. -/
theorem year?_isSome_iff (cs : List Char) :
    ((year? cs).isSome = true ↔ IsYearText .loose (trim cs)) ∧
      (IsYearText .exact (trim cs) → (year? cs).isSome = true ∧ IsDocumented (trim cs)) := by
  have hread : (year? cs).isSome = true ↔ IsYearText .loose (trim cs) :=
    ⟨isYearText_of_year?, year?_of_isYearText⟩
  refine ⟨hread, fun h => ⟨hread.mpr h.loose, h.isDocumented⟩⟩

/-- A day with its zone is in the exact manner. -/
theorem year?_isSome_iff_zonedDay :
    IsYearText .exact "2015-06-01+02:00".toList ∧
      (year? "2015-06-01+02:00".toList).isSome = true ∧ IsDocumented "2015-06-01+02:00".toList := by
  have hnone : IsPadding .exact [] := ⟨by simp, .inr rfl⟩
  have hdigits {ds : List Char} (hds : ds.all isDigit = true) : ∀ c ∈ ds, isDigit c = true :=
    List.all_eq_true.mp hds
  have hyear : IsDateYear .exact ['2', '0', '1', '5'] 2015 :=
    .plain hnone ⟨by decide, hdigits rfl, rfl⟩ (by decide) (.inr rfl)
  have hmonth : IsField .exact ['0', '6'] 6 := isField_of_length ⟨by decide, hdigits rfl, rfl⟩ rfl
  have hday : IsField .exact ['0', '1'] 1 := isField_of_length ⟨by decide, hdigits rfl, rfl⟩ rfl
  let day : Date := ⟨2015, 6, 1, by decide, by decide, by decide⟩
  have htrim : trim "2015-06-01".toList = "2015-06-01".toList := by decide
  have hdate : IsDateText .exact (trim "2015-06-01".toList) day :=
    IsDateText.intro (d := day) hyear hmonth hday
  have hfront : byteLength "2015-06-01".toList = 10 := by decide
  have hoffset : ∀ c ∈ ['0', '2'] ++ ['0', '0'], isDigit c = true := hdigits rfl
  have hzone : IsZoneText .exact "+02:00".toList :=
    .offset (.inl rfl) (by decide) (by decide) (.inr hoffset)
  have h : IsYearText .exact "2015-06-01+02:00".toList :=
    .zonedDate hfront hdate hzone (.inr htrim)
  exact ⟨h, (year?_isSome_iff "2015-06-01+02:00".toList).2 h⟩

section Lengths

theorem IsField.length_exact (h : IsField .exact cs n) : cs.length = 2 := by
  cases h with
  | intro hblanks hds _ hleast =>
      obtain rfl := hblanks.2.resolve_left nofun
      exact hleast.resolve_left nofun

theorem IsFullYear.length_ge (h : IsFullYear cs y) : 4 ≤ cs.length := by
  cases h with
  | plain _ hleast => exact hleast
  | plus _ hleast => exact hleast.trans (Nat.le_succ _)
  | minus _ hleast => exact hleast.trans (Nat.le_succ _)

end Lengths

/-- A year is read from a date that was cut off after its first hyphen. -/
theorem not_isDocumented_of_year? :
    ¬ ∀ cs, (year? cs).isSome = true → IsDocumented (trim cs) := by
  intro h
  have hcut : IsDocumented "2015-".toList := h "2015-".toList (by decide)
  generalize hcs : "2015-".toList = cs at hcut
  have hlength : cs.length = 5 := by
    rw [← hcs]
    rfl
  cases hcut with
  | year hyear =>
      -- The hyphen is no digit.
      cases hyear with
      | plain hds _ =>
          rw [← hcs] at hds
          exact absurd (hds.isDigit '-' (by decide)) (by decide)
      | plus _ _ => cases hcs
      | minus _ _ => cases hcs
  | month hyear hmonth _ _ =>
      have hfour := hyear.length_ge
      have htwo := hmonth.length_exact
      simp only [List.length_append, List.length_cons] at hlength
      omega
  | date hyear hmonth hday _ _ _ _ =>
      have hfour := hyear.length_ge
      have htwo := hmonth.length_exact
      simp only [List.length_append, List.length_cons] at hlength
      omega

end MetadataHarvest.Calendar
