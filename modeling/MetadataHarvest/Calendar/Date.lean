/-!
# Calendar dates

Dates of the proleptic Gregorian calendar, with a year zero and negative years before it.
-/

namespace MetadataHarvest.Calendar

def isLeapYear (year : Int) : Bool :=
  year % 4 = 0 && (year % 100 ≠ 0 || year % 400 = 0)

/-- The number of days of a month; 0 when there is no such month. -/
def daysInMonth (year : Int) (month : Nat) : Nat :=
  match month with
  | 1 | 3 | 5 | 7 | 8 | 10 | 12 => 31
  | 4 | 6 | 9 | 11 => 30
  | 2 => if isLeapYear year then 29 else 28
  | _ => 0

theorem daysInMonth_le (year : Int) (month : Nat) : daysInMonth year month ≤ 31 := by
  unfold daysInMonth
  split <;> try split
  all_goals omega

/-- The years that a date can have. -/
def firstYear : Int := -262143

def lastYear : Int := 262142

/-- A day of the calendar. -/
structure Date where
  year : Int
  month : Nat
  day : Nat
  year_range : firstYear ≤ year ∧ year ≤ lastYear
  day_pos : 0 < day
  day_le : day ≤ daysInMonth year month
  deriving DecidableEq

namespace Date

theorem month_range (d : Date) : 1 ≤ d.month ∧ d.month ≤ 12 := by
  have h : 0 < daysInMonth d.year d.month := Nat.lt_of_lt_of_le d.day_pos d.day_le
  unfold daysInMonth at h
  split at h <;> omega

theorem day_le_31 (d : Date) : d.day ≤ 31 :=
  Nat.le_trans d.day_le (daysInMonth_le _ _)

/-- The date with these numbers, if the calendar has it. -/
def of? (year : Int) (month day : Nat) : Option Date :=
  if h : (firstYear ≤ year ∧ year ≤ lastYear) ∧ 0 < day ∧ day ≤ daysInMonth year month then
    some ⟨year, month, day, h.1, h.2.1, h.2.2⟩
  else none

theorem of?_eq_some {year : Int} {month day : Nat} {d : Date} :
    of? year month day = some d ↔ d.year = year ∧ d.month = month ∧ d.day = day := by
  unfold of?
  split
  · constructor
    · intro h
      cases h
      exact ⟨rfl, rfl, rfl⟩
    · rintro ⟨rfl, rfl, rfl⟩
      rfl
  · next h =>
      constructor
      · intro h'
        cases h'
      · rintro ⟨rfl, rfl, rfl⟩
        exact absurd ⟨d.year_range, d.day_pos, d.day_le⟩ h

@[simp] theorem of?_self (d : Date) : of? d.year d.month d.day = some d :=
  of?_eq_some.mpr ⟨rfl, rfl, rfl⟩

/-- `n` in decimal, with leading zeros up to `width` digits. -/
def padded (width n : Nat) : List Char :=
  let digits := Nat.toDigits 10 n
  List.replicate (width - digits.length) '0' ++ digits

/-- The date as year, month and day, joined by hyphens; a year before 0 or after 9999 has a
sign. -/
def written (d : Date) : List Char :=
  let sign := if d.year < 0 then ['-'] else if 9999 < d.year then ['+'] else []
  sign ++ padded 4 d.year.natAbs ++ '-' :: padded 2 d.month ++ '-' :: padded 2 d.day

end Date

end MetadataHarvest.Calendar
