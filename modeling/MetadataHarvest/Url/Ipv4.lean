import MetadataHarvest.Number.Digits

/-!
# Dotted numbers

A host whose last part is a number is an address of 32 bits: one to four numbers between
dots, in decimal, octal after a zero or hexadecimal after `0x`, of which the last fills all
bytes that the others leave.
-/

namespace MetadataHarvest.Url.Ipv4

open MetadataHarvest.Number

/-- The number that a part is. -/
def part? (cs : List Char) : Option Nat :=
  match cs with
  | [] => none
  | '0' :: 'x' :: digits | '0' :: 'X' :: digits => ofBase? 16 digits
  | ['0'] => some 0
  | '0' :: digits => ofBase? 8 digits
  | digits => ofBase? 10 digits

/-- Without the empty part after a final dot. -/
def dropFinalDot (parts : List (List Char)) : List (List Char) :=
  if 1 < parts.length && parts.getLast? == some [] then parts.dropLast else parts

/-- Whether the last part is a number. -/
def endsInNumber (parts : List (List Char)) : Bool :=
  match (dropFinalDot parts).getLast? with
  | none => false
  | some last => (!last.isEmpty && last.all isDigit) || (part? last).isSome

/-- The address that the parts denote. -/
def ofParts? (parts : List (List Char)) : Option UInt32 := do
  let numbers ← (dropFinalDot parts).mapM part?
  let last ← numbers.getLast?
  let front := numbers.dropLast
  if 3 < front.length || front.any (255 < ·) || Nat.pow 256 (4 - front.length) ≤ last then none
  else
    let high := front.foldl (fun n byte => n * 256 + byte) 0
    return UInt32.ofNat (high * Nat.pow 256 (4 - front.length) + last)

end MetadataHarvest.Url.Ipv4
