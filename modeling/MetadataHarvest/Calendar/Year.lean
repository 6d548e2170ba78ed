import MetadataHarvest.Calendar.Pattern

/-!
# The year of a date

The year of an XML Schema date or date-time, of a year with a month, or of a bare year.
Each form is tried in turn, from the most complete to the barest.
-/

namespace MetadataHarvest.Calendar

open MetadataHarvest.Number MetadataHarvest.Text

/-- The years that a text can name. -/
def greatestYear : Int := Int.pow 2 31 - 1

/-- Whether `cs` looks like the zone of a date: Z, or a sign and six bytes with a colon in
the fourth. -/
def isDateZone (cs : List Char) : Bool :=
  match cs with
  | ['Z'] => true
  | sign :: rest =>
    (sign == '+' || sign == '-') && byteLength cs = 6
      && ((splitAtByte? 2 rest).map fun parts => parts.2.head? == some ':') == some true
  | [] => false

/-- Whether `cs` is empty or the number of a month, which may have a plus sign. -/
def isMonth (cs : List Char) : Bool :=
  let digits := match cs with
    | '+' :: rest => rest
    | rest => rest
  cs.isEmpty || (!digits.isEmpty && digits.all isDigit
    && 1 ≤ ofDigits digits && ofDigits digits ≤ 12)

/-- The text before the first hyphen and the text after it. -/
def splitHyphen (cs : List Char) : List Char × List Char :=
  (cs.takeWhile (· ≠ '-'), (cs.dropWhile (· ≠ '-')).drop 1)

/-- A year of at least four digits, perhaps with a month. -/
def yearMonth? (cs : List Char) : Option Int :=
  let (year, month) := splitHyphen cs
  if 4 ≤ year.length && year.all isDigit && isMonth month && ofDigits year ≤ greatestYear then
    some (ofDigits year)
  else none

/-- A year with or without a month, after a minus sign or not. -/
def partialYear? (cs : List Char) : Option Int :=
  match cs with
  | '-' :: rest => (yearMonth? rest).map (- ·)
  | _ => yearMonth? cs

/-- The year that a date, a date-time or a partial date names. -/
def year? (cs : List Char) : Option Int :=
  let value := trim cs
  (((Timestamp.date? value).orElse fun _ => Lenient.dateTime? value).orElse
    fun _ => calendarDate? value).map (·.year)
  |>.orElse fun _ => (match tenByteDate? value with
    | some (date, zone) => if isDateZone zone then some date.year else none
    | none => none)
  |>.orElse fun _ => partialYear? value

end MetadataHarvest.Calendar
