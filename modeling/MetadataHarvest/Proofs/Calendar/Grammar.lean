import MetadataHarvest.Proofs.Calendar.YearForm

/-!
# The grammar of dates and times

The parts of a date can be written in an exact manner, with two digits for each number after the
year, and in a loose one, which the lenient reader takes as well: blanks before a number and fewer
digits. A reader takes a part of a text exactly when the grammar has this part, provided that no
digit follows it.

## Implementation notes

Both manners share one grammar, so that a rule says itself where the loose manner allows more.
-/

namespace MetadataHarvest.Calendar

open Number Text

inductive Manner where
  | exact
  | loose

/-- Blanks before a number. The exact manner has none. -/
def IsPadding (manner : Manner) (cs : List Char) : Prop :=
  (∀ c ∈ cs, isBlank c = true) ∧ (manner = .loose ∨ cs = [])

/-- A month, a day, an hour, a minute or a second: two digits. Loosely, one is enough. -/
inductive IsField (manner : Manner) : List Char → Nat → Prop
  | intro {blanks ds : List Char} {n : Nat} (hblanks : IsPadding manner blanks)
      (hds : IsNumeral ds n) (hmost : ds.length ≤ 2) (hleast : manner = .loose ∨ ds.length = 2) :
      IsField manner (blanks ++ ds) n

/-- The year of a whole date: four digits, or more after a sign. Loosely, fewer are enough. -/
inductive IsDateYear (manner : Manner) : List Char → Int → Prop
  | plain {blanks ds : List Char} {n : Nat} (hblanks : IsPadding manner blanks)
      (hds : IsNumeral ds n) (hmost : ds.length ≤ 4) (hleast : manner = .loose ∨ ds.length = 4) :
      IsDateYear manner (blanks ++ ds) n
  | plus {blanks ds : List Char} {n : Nat} (hblanks : IsPadding manner blanks)
      (hds : IsNumeral ds n) (hleast : manner = .loose ∨ 4 ≤ ds.length) :
      IsDateYear manner (blanks ++ '+' :: ds) n
  | minus {blanks ds : List Char} {n : Nat} (hblanks : IsPadding manner blanks)
      (hds : IsNumeral ds n) (hleast : manner = .loose ∨ 4 ≤ ds.length) :
      IsDateYear manner (blanks ++ '-' :: ds) (-n)

/-- A day of the calendar. -/
inductive IsDateText (manner : Manner) : List Char → Date → Prop
  | intro {year month day : List Char} {d : Date} (hyear : IsDateYear manner year d.year)
      (hmonth : IsField manner month d.month) (hday : IsField manner day d.day) :
      IsDateText manner (year ++ '-' :: (month ++ '-' :: day)) d

/-- An hour and a minute. -/
inductive IsClock (manner : Manner) : List Char → Prop
  | intro {hour minute : List Char} {h m : Nat} (hhour : IsField manner hour h) (hh : h ≤ 23)
      (hminute : IsField manner minute m) (hm : m ≤ 59) :
      IsClock manner (hour ++ ':' :: minute)

/-- A second, which may be a leap second, perhaps with a fraction. -/
inductive IsSeconds (manner : Manner) : List Char → Prop
  | intro {second fraction : List Char} {s : Nat} (hsecond : IsField manner second s) (hs : s ≤ 60)
      (hfraction : IsFraction fraction) : IsSeconds manner (second ++ fraction)

/-- A time of day with or without seconds. -/
inductive IsTimeText (manner : Manner) : List Char → Prop
  | minute {time : List Char} (htime : IsClock manner time) : IsTimeText manner time
  | second {time second : List Char} (htime : IsClock manner time)
      (hsecond : IsSeconds manner second) : IsTimeText manner (time ++ ':' :: second)

variable {manner : Manner} {cs rest front zone : List Char} {n greatest : Nat} {y : Int} {d : Date}

section Numbers

/-- Blanks before a number are passed over. -/
theorem IsPadding.dropWhile (h : IsPadding manner front)
    (hrest : ∀ c ∈ rest.head?, isBlank c = false) : (front ++ rest).dropWhile isBlank = rest :=
  dropWhile_append_of_head? h.1 hrest

theorem isPadding_takeWhile (cs : List Char) : IsPadding .loose (cs.takeWhile isBlank) :=
  ⟨fun _ hc => List.mem_takeWhile_imp hc, .inl rfl⟩

theorem isBlank_of_head? {ds : List Char} (h : IsNumeral ds n) (rest : List Char) :
    ∀ c ∈ (ds ++ rest).head?, isBlank c = false := by
  obtain ⟨d, ds, rfl⟩ := List.exists_cons_of_ne_nil h.nonempty
  rintro c ⟨⟩
  exact isBlank_of_isDigit (h.isDigit _ List.mem_cons_self)

theorem field?_of_isField (h : IsField manner front n) (hn : n ≤ greatest)
    (hrest : ∀ c ∈ rest.head?, isDigit c = false) :
    Lenient.field? greatest (front ++ rest) = some (n, rest) := by
  cases h with
  | intro hblanks hds hmost _ =>
      rw [Lenient.field?, List.append_assoc, hblanks.dropWhile (isBlank_of_head? hds rest),
        takeNumber_append_of_le hds hmost hrest]
      simp [hn]

theorem exists_of_field? (h : Lenient.field? greatest cs = some (n, rest)) :
    ∃ front, IsField .loose front n ∧ n ≤ greatest ∧ front ++ rest = cs := by
  simp only [Lenient.field?, bind, Option.bind_eq_some_iff, Prod.exists,
    Option.ite_none_right_eq_some, Option.some.injEq, Prod.mk.injEq] at h
  obtain ⟨m, after, htake, hm, rfl, rfl⟩ := h
  obtain ⟨ds, hds, hmost, hsplit⟩ := exists_of_takeNumber htake
  refine ⟨_, .intro (isPadding_takeWhile cs) hds hmost (.inl rfl), hm, ?_⟩
  rw [List.append_assoc, hsplit, List.takeWhile_append_dropWhile]

theorem timestampField?_of_isField (h : IsField .exact front n) (hn : n ≤ greatest)
    (rest : List Char) : Timestamp.field? greatest (front ++ rest) = some (n, rest) := by
  cases h with
  | intro hblanks hds _ hleast =>
      obtain rfl := hblanks.2.resolve_left nofun
      have hfixed := fixed?_append hds rest
      rw [hleast.resolve_left nofun] at hfixed
      simp [Timestamp.field?, hfixed, hn]

/-- A number of exactly two digits is in the exact manner. -/
theorem isField_of_length {ds : List Char} (hds : IsNumeral ds n) (hlength : ds.length = 2) :
    IsField manner ds n :=
  have hnone : IsPadding manner [] := ⟨by simp, .inr rfl⟩
  .intro hnone hds hlength.le (.inr hlength)

theorem exists_of_timestampField? (h : Timestamp.field? greatest cs = some (n, rest)) :
    ∃ front, IsField .exact front n ∧ n ≤ greatest ∧ front ++ rest = cs := by
  simp only [Timestamp.field?, bind, Option.bind_eq_some_iff, Prod.exists,
    Option.ite_none_right_eq_some, Option.some.injEq, Prod.mk.injEq] at h
  obtain ⟨m, after, hfixed, hm, rfl, rfl⟩ := h
  obtain ⟨ds, hds, hlength, hsplit⟩ := exists_of_fixed? (by decide) hfixed
  exact ⟨ds, isField_of_length hds hlength, hm, hsplit⟩

end Numbers

section Dates

theorem lenientYear?_of_isDateYear (h : IsDateYear manner front y)
    (hrest : ∀ c ∈ rest.head?, isDigit c = false) :
    Lenient.year? (front ++ rest) = some (y, rest) := by
  have hsign {sign : Char} (hsign : isBlank sign = false) (more : List Char) :
      ∀ c ∈ (sign :: more).head?, isBlank c = false := by
    rintro c ⟨⟩
    exact hsign
  cases h with
  | plain hblanks hds hmost _ =>
      rw [Lenient.year?, List.append_assoc, hblanks.dropWhile (isBlank_of_head? hds rest)]
      split
      · next heq => exact absurd heq (append_ne_cons hds (by decide) rest _)
      · next heq => exact absurd heq (append_ne_cons hds (by decide) rest _)
      · simp [takeNumber_append_of_le hds hmost hrest]
  | plus hblanks hds _ =>
      rw [Lenient.year?, List.append_assoc, List.cons_append,
        hblanks.dropWhile (hsign (by decide) _)]
      simp [takeNumber_append_of_le hds (Nat.le_add_right _ rest.length) hrest]
  | minus hblanks hds _ =>
      rw [Lenient.year?, List.append_assoc, List.cons_append,
        hblanks.dropWhile (hsign (by decide) _)]
      simp [takeNumber_append_of_le hds (Nat.le_add_right _ rest.length) hrest]

theorem exists_of_lenientYear? (h : Lenient.year? cs = some (y, rest)) :
    ∃ front, IsDateYear .loose front y ∧ front ++ rest = cs := by
  have hcs : cs.takeWhile isBlank ++ cs.dropWhile isBlank = cs :=
    List.takeWhile_append_dropWhile
  have hblanks := isPadding_takeWhile cs
  unfold Lenient.year? at h
  split at h
  · next body hbody =>
      obtain ⟨⟨n, rest⟩, hn, ⟨⟩⟩ := Option.map_eq_some_iff.mp h
      obtain ⟨ds, hds, -, rfl⟩ := exists_of_takeNumber hn
      refine ⟨_, .minus hblanks hds (.inl rfl), ?_⟩
      rw [List.append_assoc, List.cons_append, ← hbody, hcs]
  · next body hbody =>
      obtain ⟨⟨n, rest⟩, hn, ⟨⟩⟩ := Option.map_eq_some_iff.mp h
      obtain ⟨ds, hds, -, rfl⟩ := exists_of_takeNumber hn
      refine ⟨_, .plus hblanks hds (.inl rfl), ?_⟩
      rw [List.append_assoc, List.cons_append, ← hbody, hcs]
  · obtain ⟨⟨n, rest⟩, hn, ⟨⟩⟩ := Option.map_eq_some_iff.mp h
    obtain ⟨ds, hds, hmost, hsplit⟩ := exists_of_takeNumber hn
    refine ⟨_, .plain hblanks hds hmost (.inl rfl), ?_⟩
    rw [List.append_assoc, hsplit, hcs]

theorem lenientDate?_of_isDateText (h : IsDateText manner front d)
    (hrest : ∀ c ∈ rest.head?, isDigit c = false) :
    Lenient.date? (front ++ rest) = some (d, rest) := by
  cases h with
  | @intro year month day _ hyear hmonth hday =>
      have hhyphen (more : List Char) := isDigit_of_mark '-' (by decide) more
      have hyear' := lenientYear?_of_isDateYear hyear
        (hhyphen (month ++ '-' :: (day ++ rest)))
      have hmonth' := field?_of_isField hmonth d.month_range.2 (hhyphen (day ++ rest))
      have hday' := field?_of_isField hday d.day_le_31 hrest
      simp [Lenient.date?, hyear', hmonth', hday', expect]

theorem exists_of_lenientDate? (h : Lenient.date? cs = some (d, rest)) :
    ∃ front, IsDateText .loose front d ∧ front ++ rest = cs := by
  simp only [Lenient.date?, bind, Option.bind_eq_some_iff, Prod.exists, expect_eq_some_iff] at h
  obtain ⟨y, _, hy, _, rfl, m, _, hm, _, rfl, n, _, hn, date, hdate, ⟨⟩⟩ := h
  obtain ⟨year, hyear, rfl⟩ := exists_of_lenientYear? hy
  obtain ⟨month, hmonth, -, rfl⟩ := exists_of_field? hm
  obtain ⟨day, hday, -, rfl⟩ := exists_of_field? hn
  obtain ⟨rfl, rfl, rfl⟩ := Date.of?_eq_some.mp hdate
  exact ⟨_, .intro hyear hmonth hday, by simp⟩

/-- A calendar date is a date and nothing else, blanks around it apart. -/
theorem calendarDate?_eq_some_iff : calendarDate? cs = some d ↔ IsDateText .loose (trim cs) d := by
  constructor
  · intro h
    unfold calendarDate? at h
    split at h
    · next date hdate =>
        obtain ⟨⟩ := h
        obtain ⟨front, hfront, hsplit⟩ := exists_of_lenientDate? hdate
        rw [List.append_nil] at hsplit
        rwa [← hsplit]
    · cases h
  · intro h
    have hread : Lenient.date? (trim cs ++ []) = _ := lenientDate?_of_isDateText h (by simp)
    rw [List.append_nil] at hread
    rw [calendarDate?, hread]

end Dates

section Times

theorem isFraction_iff : Lenient.isFraction cs = true ↔ IsFraction cs := by
  constructor
  · intro h
    unfold Lenient.isFraction at h
    split at h
    · exact .missing
    · next digits =>
        simp only [Bool.and_eq_true, Bool.not_eq_true', List.isEmpty_eq_false_iff,
          List.all_eq_true] at h
        exact .digits ⟨h.1, h.2, rfl⟩
    · cases h
  · exact lenientIsFraction

/-- No digit begins a fraction. -/
theorem IsFraction.isDigit_head? (h : IsFraction cs) : ∀ c ∈ cs.head?, isDigit c = false := by
  cases h with
  | missing => simp
  | digits _ => exact isDigit_of_mark _ (by decide) _

/-- What an hour and a minute leave of a text when their numbers are read in this way. -/
def afterClock? (field? : Nat → List Char → Option (Nat × List Char)) (cs : List Char) :
    Option (List Char) := do
  let (_, rest) ← field? 23 cs
  let (_, rest) ← field? 59 (← expect ':' rest)
  return rest

theorem isTime_eq (cs : List Char) :
    Lenient.isTime cs = match afterClock? Lenient.field? cs with
      | none => false
      | some [] => true
      | some rest =>
        match (expect ':' rest).bind (Lenient.field? 60) with
        | none => false
        | some (_, rest) => Lenient.isFraction rest := rfl

theorem exists_of_afterClock? {field? : Nat → List Char → Option (Nat × List Char)}
    (hfield : ∀ {greatest cs n rest}, field? greatest cs = some (n, rest) →
      ∃ front, IsField manner front n ∧ n ≤ greatest ∧ front ++ rest = cs)
    (h : afterClock? field? cs = some rest) :
    ∃ front, IsClock manner front ∧ front ++ rest = cs := by
  simp only [afterClock?, bind, Option.bind_eq_some_iff, Prod.exists, expect_eq_some_iff] at h
  obtain ⟨_, _, hh, _, rfl, _, _, hm, ⟨⟩⟩ := h
  obtain ⟨hour, hhour, hle, rfl⟩ := hfield hh
  obtain ⟨minute, hminute, hle', rfl⟩ := hfield hm
  exact ⟨_, .intro hhour hle hminute hle', by simp⟩

theorem afterClock?_of_isClock (h : IsClock manner front)
    (hrest : ∀ c ∈ rest.head?, isDigit c = false) :
    afterClock? Lenient.field? (front ++ rest) = some rest := by
  cases h with
  | @intro hour minute _ _ hhour hh hminute hm =>
      have hhour' := field?_of_isField hhour hh
        (isDigit_of_mark ':' (by decide) (minute ++ rest))
      have hminute' := field?_of_isField hminute hm hrest
      simp [afterClock?, hhour', hminute', expect]

theorem afterClock?_of_isClock_exact (h : IsClock .exact front) (rest : List Char) :
    afterClock? Timestamp.field? (front ++ rest) = some rest := by
  cases h with
  | @intro hour minute _ _ hhour hh hminute hm =>
      have hhour' := timestampField?_of_isField hhour hh (':' :: (minute ++ rest))
      have hminute' := timestampField?_of_isField hminute hm rest
      simp [afterClock?, hhour', hminute', expect]

/-- A time is read exactly when it is one. -/
theorem isTime_iff : Lenient.isTime cs = true ↔ IsTimeText .loose cs := by
  rw [isTime_eq]
  constructor
  · intro h
    split at h
    · cases h
    · next hclock =>
        obtain ⟨time, htime, rfl⟩ := exists_of_afterClock? exists_of_field? hclock
        rw [List.append_nil]
        exact .minute htime
    · next rest hclock =>
        obtain ⟨time, htime, rfl⟩ := exists_of_afterClock? exists_of_field? hclock
        split at h
        · cases h
        · next n fraction hsecond =>
            simp only [Option.bind_eq_some_iff, expect_eq_some_iff] at hsecond
            obtain ⟨_, rfl, hfield⟩ := hsecond
            obtain ⟨second, hsecond, hle, rfl⟩ := exists_of_field? hfield
            exact .second htime (.intro hsecond hle (isFraction_iff.mp h))
  · intro h
    cases h with
    | minute htime =>
        have hclock : afterClock? Lenient.field? (_ ++ []) = _ :=
          afterClock?_of_isClock htime (by simp)
        rw [List.append_nil] at hclock
        rw [hclock]
    | second htime hsecond =>
        rw [afterClock?_of_isClock htime (isDigit_of_mark _ (by decide) _)]
        cases hsecond with
        | intro hsecond hs hfraction =>
            have hfield := field?_of_isField hsecond hs hfraction.isDigit_head?
            simp [expect, hfield, lenientIsFraction hfraction]

theorem dateTime?_isSome_iff : (∃ d, Lenient.dateTime? cs = some d) ↔
    ∃ date time d, IsDateText .loose date d ∧ IsTimeText .loose time ∧
      date ++ 'T' :: time = cs := by
  constructor
  · rintro ⟨d, h⟩
    simp only [Lenient.dateTime?, bind, Option.bind_eq_some_iff, Prod.exists,
      Option.ite_none_right_eq_some, expect_eq_some_iff] at h
    obtain ⟨_, _, hd, time, rfl, htime, ⟨⟩⟩ := h
    obtain ⟨date, hdate, rfl⟩ := exists_of_lenientDate? hd
    exact ⟨date, time, d, hdate, isTime_iff.mp htime, rfl⟩
  · rintro ⟨date, time, d, hdate, htime, rfl⟩
    have hread := lenientDate?_of_isDateText hdate
      (isDigit_of_mark 'T' (by decide) time)
    exact ⟨d, by simp [Lenient.dateTime?, hread, expect, isTime_iff.mpr htime]⟩

end Times

end MetadataHarvest.Calendar
