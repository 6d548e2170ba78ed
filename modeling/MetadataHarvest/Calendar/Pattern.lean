import MetadataHarvest.Calendar.Date
import MetadataHarvest.Number.Literal
import MetadataHarvest.Text.Blank
import MetadataHarvest.Text.Bytes

/-!
# Reading dates

Two ways of reading: a lenient one, in which blanks may stand before a number and leading
zeros may be missing, and the strict one of internet timestamps with fixed widths.
-/

namespace MetadataHarvest.Calendar

open MetadataHarvest.Number MetadataHarvest.Text

/-- A number of at least one and at most `most` digits, and what follows it. -/
def takeNumber (most : Nat) (cs : List Char) : Option (Nat × List Char) :=
  let digits := (cs.take most).takeWhile isDigit
  if digits.isEmpty then none else some (ofDigits digits, cs.drop digits.length)

/-- What follows the character `c` at the front. -/
def expect (c : Char) : List Char → Option (List Char)
  | [] => none
  | d :: cs => if d = c then some cs else none

namespace Lenient

/-- A year: up to four digits, or any number of them after a sign. -/
def year? (cs : List Char) : Option (Int × List Char) :=
  match cs.dropWhile isBlank with
  | '-' :: rest => (takeNumber rest.length rest).map fun (n, after) => (-(n : Int), after)
  | '+' :: rest => (takeNumber rest.length rest).map fun (n, after) => ((n : Int), after)
  | rest => (takeNumber 4 rest).map fun (n, after) => ((n : Int), after)

/-- A number of one or two digits up to `greatest`. -/
def field? (greatest : Nat) (cs : List Char) : Option (Nat × List Char) := do
  let (n, rest) ← takeNumber 2 (cs.dropWhile isBlank)
  if n ≤ greatest then some (n, rest) else none

/-- Year, month and day, and what follows them. -/
def date? (cs : List Char) : Option (Date × List Char) := do
  let (year, rest) ← year? cs
  let (month, rest) ← field? 12 (← expect '-' rest)
  let (day, rest) ← field? 31 (← expect '-' rest)
  let date ← Date.of? year month day
  return (date, rest)

/-- Whether `cs` is a fraction of a second, or nothing. -/
def isFraction : List Char → Bool
  | [] => true
  | '.' :: digits => !digits.isEmpty && digits.all isDigit
  | _ => false

/-- Whether `cs` is a time of day: hour and minute, then perhaps a second, then perhaps a
fraction of it. The sixtieth second may be a leap second. -/
def isTime (cs : List Char) : Bool :=
  let minutes := do
    let (_, rest) ← field? 23 cs
    let (_, rest) ← field? 59 (← expect ':' rest)
    return rest
  match minutes with
  | none => false
  | some [] => true
  | some rest =>
    match (expect ':' rest).bind (field? 60) with
    | none => false
    | some (_, rest) => isFraction rest

/-- A date with a time of day and no zone. -/
def dateTime? (cs : List Char) : Option Date := do
  let (date, rest) ← date? cs
  let rest ← expect 'T' rest
  if isTime rest then some date else none

end Lenient

namespace Timestamp

/-- A number of exactly `width` digits. -/
def fixed? (width : Nat) (cs : List Char) : Option (Nat × List Char) :=
  let digits := cs.take width
  if digits.length = width && digits.all isDigit then some (ofDigits digits, cs.drop width)
  else none

/-- A number of two digits up to `greatest`. -/
def field? (greatest : Nat) (cs : List Char) : Option (Nat × List Char) := do
  let (n, rest) ← fixed? 2 cs
  if n ≤ greatest then some (n, rest) else none

/-- Whether `cs` is a zone: the letter Z, or a signed offset of less than a day. -/
def isZone (cs : List Char) : Bool :=
  match cs with
  | ['Z'] | ['z'] => true
  | sign :: rest =>
    let offset := do
      let (_, rest) ← field? 23 rest
      let (_, rest) ← field? 59 (← expect ':' rest)
      return rest
    (sign == '+' || sign == '-' || sign == '\u2212') && offset == some []
  | [] => false

/-- What follows an optional fraction of a second. -/
def afterFraction (cs : List Char) : Option (List Char) :=
  match cs with
  | '.' :: rest =>
    if (rest.takeWhile isDigit).isEmpty then none else some (rest.dropWhile isDigit)
  | rest => some rest

/-- The date of an internet timestamp, as written and whatever its zone. -/
def date? (cs : List Char) : Option Date := do
  let (year, rest) ← fixed? 4 cs
  let (month, rest) ← field? 12 (← expect '-' rest)
  let (day, rest) ← field? 31 (← expect '-' rest)
  let date ← Date.of? year month day
  let rest ← match rest with
    | c :: rest => if c == 'T' || c == 't' || c == ' ' then some rest else none
    | [] => none
  let (_, rest) ← field? 23 rest
  let (_, rest) ← field? 59 (← expect ':' rest)
  let (_, rest) ← field? 60 (← expect ':' rest)
  let rest ← afterFraction rest
  if isZone rest then some date else none

end Timestamp

/-- A calendar date, blanks around it apart. -/
def calendarDate? (cs : List Char) : Option Date :=
  match Lenient.date? (trim cs) with
  | some (date, []) => some date
  | _ => none

/-- The calendar date that the first ten bytes of `cs` hold, and what follows them. -/
def tenByteDate? (cs : List Char) : Option (Date × List Char) := do
  let (front, back) ← splitAtByte? 10 cs
  let date ← calendarDate? front
  return (date, back)

/-- A calendar date, or the one with which a longer text starts. -/
def leadingDate? (cs : List Char) : Option Date :=
  let value := trim cs
  match calendarDate? value with
  | some date => some date
  | none => (tenByteDate? value).map (·.1)

end MetadataHarvest.Calendar
