import MetadataHarvest.Proofs.Calendar.LeadingYear

/-!
# Forms of dates that name a year

The year of a date is read from the year alone, from the year with the month, and from the whole
date, which a zone or a time of day may follow. Every form starts with the year in four digits, so
it is enough that some reader takes the form: it can give no other year.
-/

namespace MetadataHarvest.Calendar

open Number Text

/-- An hour and a minute. -/
def clock (hour minute : Nat) : List Char := Date.padded 2 hour ++ ':' :: Date.padded 2 minute

/-- The letter Z, or a signed offset with fewer than so many hours and minutes. -/
inductive IsZoneBelow (hours minutes : Nat) : List Char → Prop
  | utc : IsZoneBelow hours minutes ['Z']
  | offset {sign : Char} {hour minute : Nat} : sign = '+' ∨ sign = '-' → hour < hours →
    minute < minutes → IsZoneBelow hours minutes (sign :: clock hour minute)

/-- A point and any number of digits, or nothing. -/
inductive IsFraction : List Char → Prop
  | missing : IsFraction []
  | digits {ds : List Char} {n : Nat} : IsNumeral ds n → IsFraction ('.' :: ds)

/-- A second, which may be a leap second, perhaps with a fraction. -/
inductive IsSecond : List Char → Prop
  | intro {whole : Nat} {fraction : List Char} : whole ≤ 60 → IsFraction fraction →
    IsSecond (Date.padded 2 whole ++ fraction)

/-- The forms of a date with a year of four digits. -/
inductive IsForm (d : Date) : List Char → Prop
  | year : IsForm d (Date.padded 4 d.year.natAbs)
  | month : IsForm d (Date.padded 4 d.year.natAbs ++ '-' :: Date.padded 2 d.month)
  | day : IsForm d d.written
  | zonedDay {zone : List Char} : IsZoneBelow 100 100 zone → IsForm d (d.written ++ zone)
  | minute {hour minute : Nat} : hour < 24 → minute < 60 →
    IsForm d (d.written ++ 'T' :: clock hour minute)
  | second {hour minute : Nat} {second : List Char} : hour < 24 → minute < 60 → IsSecond second →
    IsForm d (d.written ++ 'T' :: (clock hour minute ++ ':' :: second))
  | zonedSecond {hour minute : Nat} {second zone : List Char} : hour < 24 → minute < 60 →
    IsSecond second → IsZoneBelow 24 60 zone →
    IsForm d (d.written ++ 'T' :: (clock hour minute ++ ':' :: (second ++ zone)))

/-- Whether the year is written in four digits and without a sign. -/
def HasFourDigits (d : Date) : Prop := 0 ≤ d.year ∧ d.year ≤ 9999

variable {d : Date} {cs form zone second fraction rest : List Char} {hour minute : Nat}
  {c : Char}

section Characters

/-- The characters of which dates and times are made. -/
def IsDateChar (c : Char) : Prop := isDigit c = true ∨ c ∈ ['-', '+', ':', '.', 'T', 'Z']

theorem IsDateChar.isBlank (h : IsDateChar c) : isBlank c = false := by
  rcases h with h | h
  · exact isBlank_of_isDigit h
  · have hmarks : ['-', '+', ':', '.', 'T', 'Z'].all (!Text.isBlank ·) = true := by decide
    simpa using List.all_eq_true.mp hmarks c h

theorem IsDateChar.utf8Size (h : IsDateChar c) : c.utf8Size = 1 := by
  rcases h with h | h
  · have hlast := (isDigit_iff.mp h).2
    rw [Char.utf8Size_eq_one_iff, UInt32.le_iff_toNat_le]
    exact hlast.trans (by decide)
  · have hmarks : ['-', '+', ':', '.', 'T', 'Z'].all (·.utf8Size == 1) = true := by decide
    simpa using List.all_eq_true.mp hmarks c h

theorem isDateChar_of_isNumeral {n : Nat} (h : IsNumeral cs n) : ∀ c ∈ cs, IsDateChar c :=
  fun c hc => .inl (h.isDigit c hc)

theorem isDateChar_padded (width n : Nat) : ∀ c ∈ Date.padded width n, IsDateChar c :=
  isDateChar_of_isNumeral (isNumeral_padded width n)

theorem isDateChar_clock (hour minute : Nat) : ∀ c ∈ clock hour minute, IsDateChar c := by
  rw [clock, List.forall_mem_append, List.forall_mem_cons]
  exact ⟨isDateChar_padded 2 hour, .inr (by decide), isDateChar_padded 2 minute⟩

theorem IsZoneBelow.isDateChar {hours minutes : Nat} (h : IsZoneBelow hours minutes zone) :
    ∀ c ∈ zone, IsDateChar c := by
  cases h with
  | utc =>
      rw [List.forall_mem_singleton]
      exact .inr (by decide)
  | @offset sign hour minute hsign _ _ =>
      rw [List.forall_mem_cons]
      refine ⟨.inr ?_, isDateChar_clock hour minute⟩
      rcases hsign with rfl | rfl <;> decide

theorem IsFraction.isDateChar (h : IsFraction fraction) : ∀ c ∈ fraction, IsDateChar c := by
  cases h with
  | missing => exact nofun
  | digits h =>
      rw [List.forall_mem_cons]
      exact ⟨.inr (by decide), isDateChar_of_isNumeral h⟩

theorem IsSecond.isDateChar (h : IsSecond second) : ∀ c ∈ second, IsDateChar c := by
  cases h with
  | intro _ hfraction =>
      rw [List.forall_mem_append]
      exact ⟨isDateChar_padded 2 _, hfraction.isDateChar⟩

theorem written_eq (hyear : HasFourDigits d) :
    d.written = Date.padded 4 d.year.natAbs ++
      '-' :: (Date.padded 2 d.month ++ '-' :: Date.padded 2 d.day) := by
  have hpositive : ¬ d.year < 0 := Int.not_lt.mpr hyear.1
  have hsmall : ¬ 9999 < d.year := Int.not_lt.mpr hyear.2
  simp [Date.written, hpositive, hsmall]

theorem isDateChar_written (hyear : HasFourDigits d) : ∀ c ∈ d.written, IsDateChar c := by
  rw [written_eq hyear]
  simp only [List.forall_mem_append, List.forall_mem_cons]
  exact ⟨isDateChar_padded 4 _, .inr (by decide), isDateChar_padded 2 _, .inr (by decide),
    isDateChar_padded 2 _⟩

theorem IsForm.isDateChar (hyear : HasFourDigits d) (h : IsForm d form) :
    ∀ c ∈ form, IsDateChar c := by
  have hwritten := isDateChar_written hyear
  have hT : IsDateChar 'T' := .inr (by decide)
  have hcolon : IsDateChar ':' := .inr (by decide)
  cases h with
  | year => exact isDateChar_padded 4 _
  | month =>
      rw [List.forall_mem_append, List.forall_mem_cons]
      exact ⟨isDateChar_padded 4 _, .inr (by decide), isDateChar_padded 2 _⟩
  | day => exact hwritten
  | zonedDay hzone =>
      rw [List.forall_mem_append]
      exact ⟨hwritten, hzone.isDateChar⟩
  | minute _ _ =>
      rw [List.forall_mem_append, List.forall_mem_cons]
      exact ⟨hwritten, hT, isDateChar_clock _ _⟩
  | second _ _ hsecond =>
      simp only [List.forall_mem_append, List.forall_mem_cons]
      exact ⟨hwritten, hT, isDateChar_clock _ _, hcolon, hsecond.isDateChar⟩
  | zonedSecond _ _ hsecond hzone =>
      simp only [List.forall_mem_append, List.forall_mem_cons]
      exact ⟨hwritten, hT, isDateChar_clock _ _, hcolon, hsecond.isDateChar, hzone.isDateChar⟩

end Characters

section Parts

/-- A text without blanks is trimmed. -/
theorem trim_of_isDateChar (h : ∀ c ∈ cs, IsDateChar c) : trim cs = cs := by
  have hfront : cs.dropWhile isBlank = cs := by
    rw [List.dropWhile_eq_self_iff]
    exact fun _ => by simp [(h _ (List.getElem_mem _)).isBlank]
  rw [trim, trimWhile, hfront, dropWhileEnd_eq_rdropWhile, List.rdropWhile_eq_self_iff]
  exact fun hne => by simp [(h _ (List.getLast_mem hne)).isBlank]

theorem byteLength_of_isDateChar (h : ∀ c ∈ cs, IsDateChar c) : byteLength cs = cs.length := by
  induction cs with
  | nil => rfl
  | cons c cs ih =>
      rw [List.forall_mem_cons] at h
      rw [byteLength_cons, List.length_cons, ih h.2, h.1.utf8Size, Nat.add_comm]

theorem splitAtByte?_append (h : ∀ c ∈ cs, IsDateChar c) (rest : List Char) :
    splitAtByte? cs.length (cs ++ rest) = some (cs, rest) := by
  rw [← byteLength_of_isDateChar h]
  exact splitAtByte?_byteLength cs rest

theorem length_padded_two {n : Nat} (h : n < 100) : (Date.padded 2 n).length = 2 :=
  length_padded (by decide) (by simpa using h)

theorem length_padded_year (hyear : HasFourDigits d) :
    (Date.padded 4 d.year.natAbs).length = 4 := by
  obtain ⟨hlow, hhigh⟩ := hyear
  apply length_padded (by decide)
  have hpower : Nat.pow 10 4 = 10000 := rfl
  omega

theorem length_written (hyear : HasFourDigits d) : d.written.length = 10 := by
  have hmonth := d.month_range.2
  have hday := d.day_le_31
  rw [written_eq hyear]
  simp only [List.length_append, List.length_cons, length_padded_year hyear,
    length_padded_two (show d.month < 100 by omega), length_padded_two (show d.day < 100 by omega)]

end Parts

section Readers

theorem lenientYear?_padded (hyear : HasFourDigits d) (rest : List Char) :
    Lenient.year? (Date.padded 4 d.year.natAbs ++ rest) = some (d.year, rest) := by
  have hnumeral := isNumeral_padded 4 d.year.natAbs
  have htake := takeNumber_append hnumeral rest
  rw [length_padded_year hyear] at htake
  rw [Lenient.year?, dropWhile_isBlank_append hnumeral]
  split
  · next heq => exact absurd heq (append_ne_cons hnumeral (by decide) rest _)
  · next heq => exact absurd heq (append_ne_cons hnumeral (by decide) rest _)
  · simp [htake, Int.natAbs_of_nonneg hyear.1]

theorem lenientDate?_written (hyear : HasFourDigits d) (rest : List Char) :
    Lenient.date? (d.written ++ rest) = some (d, rest) := by
  have hmonth := d.month_range.2
  have hday := d.day_le_31
  simp [written_eq hyear, Lenient.date?, lenientYear?_padded hyear, expect,
    field?_padded hmonth (by omega), field?_padded hday (by omega)]

theorem calendarDate?_written (hyear : HasFourDigits d) : calendarDate? d.written = some d := by
  have hdate := lenientDate?_written hyear []
  rw [List.append_nil] at hdate
  rw [calendarDate?, trim_of_isDateChar (isDateChar_written hyear), hdate]

theorem tenByteDate?_written (hyear : HasFourDigits d) (zone : List Char) :
    tenByteDate? (d.written ++ zone) = some (d, zone) := by
  have hsplit := splitAtByte?_append (isDateChar_written hyear) zone
  rw [length_written hyear] at hsplit
  simp [tenByteDate?, hsplit, calendarDate?_written hyear]

theorem isDateZone_of_isZoneBelow (h : IsZoneBelow 100 100 zone) : isDateZone zone = true := by
  cases h with
  | utc => rfl
  | @offset sign hour minute hsign hhour hminute =>
      have hsplit := splitAtByte?_append (isDateChar_padded 2 hour)
        (':' :: Date.padded 2 minute)
      have hlength : byteLength (clock hour minute) = 5 := by
        rw [byteLength_of_isDateChar (isDateChar_clock hour minute), clock, List.length_append,
          List.length_cons, length_padded_two hhour, length_padded_two hminute]
      rw [length_padded_two hhour, ← clock] at hsplit
      have hsize : '+'.utf8Size = 1 ∧ '-'.utf8Size = 1 := by decide
      rcases hsign with rfl | rfl
      · simp [isDateZone, hlength, hsplit, hsize]
      · simp [isDateZone, hlength, hsplit, hsize]

theorem isTime_clock (hhour : hour < 24) (hminute : minute < 60) :
    Lenient.isTime (clock hour minute) = true := by
  have hhour' := field?_padded (show hour ≤ 23 by omega) (by omega) (':' :: Date.padded 2 minute)
  have hminute' := field?_padded (show minute ≤ 59 by omega) (by omega) []
  rw [List.append_nil] at hminute'
  simp [Lenient.isTime, clock, expect, hhour', hminute']

theorem lenientIsFraction (h : IsFraction fraction) : Lenient.isFraction fraction = true := by
  cases h with
  | missing => rfl
  | digits h => simpa [Lenient.isFraction, h.nonempty] using h.isDigit

theorem isTime_second (hhour : hour < 24) (hminute : minute < 60) (hsecond : IsSecond second) :
    Lenient.isTime (clock hour minute ++ ':' :: second) = true := by
  have hhour' := field?_padded (show hour ≤ 23 by omega) (by omega)
    (':' :: (Date.padded 2 minute ++ ':' :: second))
  have hminute' := field?_padded (show minute ≤ 59 by omega) (by omega) (':' :: second)
  cases hsecond with
  | intro hwhole hfraction =>
      simp [Lenient.isTime, clock, expect, hhour', hminute', field?_padded hwhole (by omega),
        lenientIsFraction hfraction]

/-- A fraction ends where something begins that continues neither the second nor its fraction. -/
theorem afterFraction_append (hfraction : IsFraction fraction)
    (hrest : ∀ c ∈ rest.head?, c ≠ '.' ∧ isDigit c = false) :
    Timestamp.afterFraction (fraction ++ rest) = some rest := by
  cases hfraction with
  | missing =>
      rw [List.nil_append]
      unfold Timestamp.afterFraction
      split
      · exact absurd rfl (hrest '.' rfl).1
      · rfl
  | digits h =>
      have hstop : ∀ c ∈ rest.head?, isDigit c = false := fun c hc => (hrest c hc).2
      simp [Timestamp.afterFraction, takeWhile_append_of_head? h.isDigit hstop,
        dropWhile_append_of_head? h.isDigit hstop, h.nonempty]

theorem IsZoneBelow.head? {hours minutes : Nat} (h : IsZoneBelow hours minutes zone) :
    ∀ c ∈ zone.head?, c ≠ '.' ∧ isDigit c = false := by
  cases h with
  | utc =>
      rintro c ⟨⟩
      decide
  | offset hsign _ _ =>
      rintro c ⟨⟩
      rcases hsign with rfl | rfl <;> decide

theorem isZone_of_isZoneBelow (h : IsZoneBelow 24 60 zone) : Timestamp.isZone zone = true := by
  cases h with
  | utc => rfl
  | @offset sign hour minute hsign hhour hminute =>
      have hminute' := timestampField?_padded (show minute ≤ 59 by omega) (by omega) []
      rw [List.append_nil] at hminute'
      rcases hsign with rfl | rfl
      · simp [Timestamp.isZone, clock, expect, hminute',
          timestampField?_padded (show hour ≤ 23 by omega) (by omega)]
      · simp [Timestamp.isZone, clock, expect, hminute',
          timestampField?_padded (show hour ≤ 23 by omega) (by omega)]

theorem timestamp?_written (hyear : HasFourDigits d) (hhour : hour < 24) (hminute : minute < 60)
    (hsecond : IsSecond second) (hzone : IsZoneBelow 24 60 zone) :
    Timestamp.date? (d.written ++ 'T' :: (clock hour minute ++ ':' :: (second ++ zone))) =
      some d := by
  have hmonth := d.month_range.2
  have hday := d.day_le_31
  have hyear' := fixed?_append (isNumeral_padded 4 d.year.natAbs)
  rw [length_padded_year hyear] at hyear'
  have hfour : ((d.year.natAbs : Nat) : Int) = d.year := Int.natAbs_of_nonneg hyear.1
  cases hsecond with
  | intro hwhole hfraction =>
      simp [written_eq hyear, Timestamp.date?, clock, expect, hyear', hfour,
        timestampField?_padded hmonth (by omega), timestampField?_padded hday (by omega),
        timestampField?_padded (show hour ≤ 23 by omega) (by omega),
        timestampField?_padded (show minute ≤ 59 by omega) (by omega),
        timestampField?_padded hwhole (by omega), afterFraction_append hfraction hzone.head?,
        isZone_of_isZoneBelow hzone]

theorem dateTime?_written {time : List Char} (hyear : HasFourDigits d)
    (htime : Lenient.isTime time = true) :
    Lenient.dateTime? (d.written ++ 'T' :: time) = some d := by
  simp [Lenient.dateTime?, lenientDate?_written hyear, expect, htime]

theorem isMonth_padded {month : Nat} (hlow : 1 ≤ month) (hhigh : month ≤ 12) :
    isMonth (Date.padded 2 month) = true := by
  have hnumeral := isNumeral_padded 2 month
  have hall : (Date.padded 2 month).all isDigit = true := List.all_eq_true.mpr hnumeral.isDigit
  unfold isMonth
  split
  · next heq =>
      rw [← List.append_nil (Date.padded 2 month)] at heq
      exact absurd heq (append_ne_cons hnumeral (by decide) [] _)
  · simp [hnumeral.value, hall, hlow, hhigh]

theorem splitHyphen_append {ds : List Char} {n : Nat} (h : IsNumeral ds n)
    (hrest : ∀ c ∈ rest.head?, c = '-') : splitHyphen (ds ++ rest) = (ds, rest.drop 1) := by
  have hdigits : ∀ c ∈ ds, decide (c ≠ '-') = true := by
    intro c hc
    have hdigit := h.isDigit c hc
    rw [decide_eq_true_eq]
    rintro rfl
    cases hdigit
  have hhyphen : ∀ c ∈ rest.head?, decide (c ≠ '-') = false := by simpa using hrest
  rw [splitHyphen, takeWhile_append_of_head? hdigits hhyphen,
    dropWhile_append_of_head? hdigits hhyphen]

/-- A year of four digits is read, and so is one with a month after it. -/
theorem partialYear?_padded (hyear : HasFourDigits d) (hrest : ∀ c ∈ rest.head?, c = '-')
    (hmonth : isMonth (rest.drop 1) = true) :
    partialYear? (Date.padded 4 d.year.natAbs ++ rest) = some d.year := by
  have hnumeral := isNumeral_padded 4 d.year.natAbs
  have hall : (Date.padded 4 d.year.natAbs).all isDigit = true :=
    List.all_eq_true.mpr hnumeral.isDigit
  have hfour : ((d.year.natAbs : Nat) : Int) = d.year := Int.natAbs_of_nonneg hyear.1
  have hgreatest : d.year ≤ greatestYear := Int.le_trans hyear.2 (by decide)
  unfold partialYear?
  split
  · next heq => exact absurd heq (append_ne_cons hnumeral (by decide) rest _)
  · rw [yearMonth?, splitHyphen_append hnumeral hrest]
    simp only [length_padded_year hyear, hall, hmonth, hnumeral.value, hfour, hgreatest]
    rfl

end Readers

/-- Some reader takes the form. -/
theorem isSome_year? (hyear : HasFourDigits d) (h : IsForm d form) :
    (year? form).isSome = true := by
  have htrim := trim_of_isDateChar (h.isDateChar hyear)
  rw [Option.isSome_iff_ne_none]
  intro hnone
  -- If the form had no year, all readers would have refused it, the one made for it among them.
  simp only [year?, htrim, Option.orElse_eq_or, Option.or_eq_none_iff, Option.map_eq_none_iff]
    at hnone
  obtain ⟨⟨⟨hstamp, htime⟩, hdate⟩, hzoned, hpartial⟩ := hnone
  cases h with
  | year =>
      have hread : partialYear? (Date.padded 4 d.year.natAbs ++ []) = some d.year :=
        partialYear?_padded hyear (by simp) rfl
      rw [List.append_nil, hpartial] at hread
      cases hread
  | month =>
      have hread : partialYear? (Date.padded 4 d.year.natAbs ++ '-' :: Date.padded 2 d.month) =
          some d.year :=
        partialYear?_padded hyear (by simp) (isMonth_padded d.month_range.1 d.month_range.2)
      rw [hpartial] at hread
      cases hread
  | day =>
      rw [calendarDate?_written hyear] at hdate
      cases hdate
  | zonedDay hzone =>
      simp [tenByteDate?_written hyear, isDateZone_of_isZoneBelow hzone] at hzoned
  | minute hhour hminute =>
      rw [dateTime?_written hyear (isTime_clock hhour hminute)] at htime
      cases htime
  | second hhour hminute hsecond =>
      rw [dateTime?_written hyear (isTime_second hhour hminute hsecond)] at htime
      cases htime
  | zonedSecond hhour hminute hsecond hzone =>
      rw [timestamp?_written hyear hhour hminute hsecond hzone] at hstamp
      cases hstamp

/-- Every form starts with the year. -/
theorem IsForm.leadingNumber? (hyear : HasFourDigits d) (h : IsForm d form) :
    leadingNumber? form = some d.year := by
  have hsigned : IsSigned (Date.padded 4 d.year.natAbs) d.year := by
    have hplain := IsSigned.plain (isNumeral_padded 4 d.year.natAbs)
    rwa [Int.natAbs_of_nonneg hyear.1] at hplain
  have hwritten : StartsWith d.written d.year := ⟨_, _, hsigned, (written_eq hyear).symm⟩
  cases h with
  | year =>
      rw [← List.append_nil (Date.padded 4 d.year.natAbs)]
      exact leadingNumber?_append hsigned (by simp)
  | month => exact StartsWith.leadingNumber? ⟨_, _, hsigned, rfl⟩
  | day => exact hwritten.leadingNumber?
  | zonedDay _ => exact (hwritten.append _).leadingNumber?
  | minute _ _ => exact (hwritten.append _).leadingNumber?
  | second _ _ _ => exact (hwritten.append _).leadingNumber?
  | zonedSecond _ _ _ _ => exact (hwritten.append _).leadingNumber?

theorem year?_form (hyear : HasFourDigits d) (h : IsForm d form) : year? form = some d.year := by
  obtain ⟨y, hy⟩ := Option.isSome_iff_exists.mp (isSome_year? hyear h)
  have hleading := leadingNumber?_of_year? hy
  rw [trim_of_isDateChar (h.isDateChar hyear), h.leadingNumber? hyear] at hleading
  rw [hy, ← hleading]

/-- A year that a text names is the number with which the text starts, blanks apart, and so is the
year of a calendar date that leads the text. All forms of a date with a year of four digits name
this year. -/
theorem year_leading :
    (∀ (cs : List Char) (y : Int), year? cs = some y → leadingNumber? (trim cs) = some y) ∧
      (∀ (cs : List Char) (y : Int) (d : Date), year? cs = some y → leadingDate? cs = some d →
        d.year = y) ∧
      ∀ (d : Date) (form : List Char), HasFourDigits d → IsForm d form →
        year? form = some d.year := by
  refine ⟨fun cs y => leadingNumber?_of_year?, ?_, fun d form => year?_form⟩
  intro cs y d hyear hdate
  apply Option.some.inj
  rw [← leadingNumber?_of_leadingDate? hdate, leadingNumber?_of_year? hyear]

/-- The leap day of the year zero. -/
def leapDay : Date := ⟨0, 2, 29, by decide, by decide, by decide⟩

theorem year_leading_leapDay :
    let evening := " 2015-12-31T23:30:00-05:00".toList
    let second := Date.padded 2 60 ++ '.' :: Date.padded 2 25
    let form := leapDay.written ++ 'T' :: (clock 23 59 ++ ':' :: (second ++ '+' :: clock 14 0))
    year? evening = some 2015 ∧ leadingNumber? (trim evening) = some 2015 ∧
      (∃ d, leadingDate? evening = some d ∧ d.year = 2015) ∧
      form = "0000-02-29T23:59:60.25+14:00".toList ∧ HasFourDigits leapDay ∧
      IsForm leapDay form ∧ year? form = some 0 := by
  intro evening second form
  obtain ⟨hnumber, hsame, hforms⟩ := year_leading
  have hyear : year? evening = some 2015 := by decide +kernel
  have hleading : (leadingDate? evening).isSome = true := by decide +kernel
  obtain ⟨d, hd⟩ := Option.isSome_iff_exists.mp hleading
  have hfour : HasFourDigits leapDay := ⟨by decide, by decide⟩
  have hsecond : IsSecond second :=
    .intro (by decide) (.digits (isNumeral_padded 2 25))
  have hform : IsForm leapDay form :=
    .zonedSecond (by decide) (by decide) hsecond (.offset (.inl rfl) (by decide) (by decide))
  exact ⟨hyear, hnumber _ _ hyear, ⟨d, hd, hsame _ _ _ hyear hd⟩, by decide +kernel, hfour, hform,
    hforms leapDay form hfour hform⟩

end MetadataHarvest.Calendar
