/-!
# Punycode

Labels with characters beyond ASCII have an ASCII form: the ASCII characters, a hyphen, and
then numbers of variable length that say which character comes next in code point order
and where it is inserted.
-/

namespace MetadataHarvest.Url.Punycode

def base : Nat := 36

/-- The value of a digit: letters come before decimal digits. -/
def digit? (c : Char) : Option Nat :=
  if 'a' ≤ c && c ≤ 'z' then some (c.toNat - 'a'.toNat)
  else if 'A' ≤ c && c ≤ 'Z' then some (c.toNat - 'A'.toNat)
  else if '0' ≤ c && c ≤ '9' then some (c.toNat - '0'.toNat + 26)
  else none

/-- The least digit that is not the last one of its number, at position `k`. -/
def threshold (k bias : Nat) : Nat :=
  if k ≤ bias + 1 then 1 else if bias + 26 ≤ k then 26 else k - bias

/-- The digit count that a number `delta`, halved or damped, needs. -/
def adaptFrom (delta k : Nat) : Nat :=
  if 455 < delta then adaptFrom (delta / 35) (k + base) else k + 36 * delta / (delta + 38)
termination_by delta
decreasing_by omega

/-- The bias after a number `delta` that was read when `count` characters were known. -/
def adapt (delta count : Nat) (first : Bool) : Nat :=
  let damped := if first then delta / 700 else delta / 2
  adaptFrom (damped + damped / count) 0

/-- A number of variable length and the digits after it; `k` is the position of the next
digit and `weight` its weight. Numbers have to fit 32 bits. -/
def number? (k weight bias total : Nat) : List Char → Option (Nat × List Char)
  | [] => none
  | c :: cs =>
    match digit? c with
    | none => none
    | some digit =>
      let sum := total + digit * weight
      let nextWeight := weight * (base - threshold k bias)
      if Nat.pow 2 32 ≤ sum then none
      else if digit < threshold k bias then some (sum, cs)
      else if Nat.pow 2 32 ≤ nextWeight then none
      else number? (k + base) nextWeight bias sum cs

theorem length_of_number? {k weight bias total n : Nat} {cs rest : List Char}
    (h : number? k weight bias total cs = some (n, rest)) : rest.length < cs.length := by
  induction cs generalizing k weight total with
  | nil => simp [number?] at h
  | cons c cs ih =>
      simp only [number?] at h
      repeat' split at h
      all_goals simp_all
      have := ih h
      omega

/-- Inserts the characters that the digits `cs` describe into `known`; the next character
has at least the number `code`, and it is inserted at `index` or later. -/
def insertAll? (known : List Char) (code index bias : Nat) (first : Bool) (cs : List Char) :
    Option (List Char) :=
  if cs.isEmpty then some known
  else match _h : number? base 1 bias index cs with
    | none => none
    | some (next, rest) =>
      let count := known.length + 1
      let code := code + next / count
      let place := next % count
      if code.isValidChar then
        insertAll? (known.take place ++ Char.ofNat code :: known.drop place) code (place + 1)
          (adapt (next - index) count first) false rest
      else none
termination_by cs.length
decreasing_by exact length_of_number? _h

/-- The text of which `cs` is the ASCII form. A hyphen needs an ASCII character before it. -/
def decode? (cs : List Char) : Option (List Char) :=
  let digits := (cs.reverse.takeWhile (· ≠ '-')).reverse
  let known := (cs.take (cs.length - digits.length)).dropLast
  if known.isEmpty then insertAll? [] 128 0 72 true cs
  else if known.all (·.toNat < 0x80) then insertAll? known 128 0 72 true digits
  else none

end MetadataHarvest.Url.Punycode
