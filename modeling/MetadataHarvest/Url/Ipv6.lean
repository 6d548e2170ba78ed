import MetadataHarvest.Number.Digits
import MetadataHarvest.Text.Scan

/-!
# Addresses of 128 bits

Eight groups of up to four hexadecimal digits between colons. Two colons may stand once for
groups that are zero, and four decimal numbers between dots for the last two groups.
-/

namespace MetadataHarvest.Url.Ipv6

open MetadataHarvest.Number MetadataHarvest.Text

/-- Whether `cs` is a number up to 255 without a leading zero. -/
def isByte (cs : List Char) : Bool :=
  !cs.isEmpty && cs.all isDigit && (cs.head? != some '0' || cs.length = 1) && ofDigits cs ≤ 255

/-- Whether `cs` is `dots + 1` bytes between dots. -/
def isDotted : Nat → List Char → Bool
  | 0, cs => isByte cs
  | dots + 1, cs =>
    isByte (cs.takeWhile (· ≠ '.')) && (cs.dropWhile (· ≠ '.')).head? == some '.'
      && isDotted dots ((cs.dropWhile (· ≠ '.')).drop 1)

/-- Whether `cs` completes an address of which `count` groups have been read; `gap` says
whether two colons stood among them. -/
def completes (count : Nat) (gap : Bool) (cs : List Char) : Bool :=
  if _h : cs = [] then gap || count = 8
  else if count = 8 then false
  else
    let digits := (cs.take 4).takeWhile fun c => (digit? 16 c).isSome
    match _h' : cs.drop digits.length with
    | [] => gap || count = 7
    | ':' :: rest =>
      if digits.isEmpty then !gap && completes (count + 1) true rest
      else !rest.isEmpty && completes (count + 1) gap rest
    | '.' :: _ => !digits.isEmpty && count ≤ 6 && isDotted 3 cs && (gap || count = 6)
    | _ => false
termination_by cs.length
decreasing_by
  all_goals
    have h₁ := congrArg List.length _h'
    simp only [List.length_drop, List.length_cons] at h₁
    omega

/-- Whether `cs` is an address. -/
def isAddress (cs : List Char) : Bool :=
  match cs with
  | ':' :: ':' :: rest => completes 1 true rest
  | ':' :: _ => false
  | _ => 2 ≤ cs.length && completes 0 false cs

end MetadataHarvest.Url.Ipv6
