/-!
# Digits

The values of digits and of runs of digits, in bases up to sixteen.
-/

namespace MetadataHarvest.Number

def isDigit (c : Char) : Bool := '0' ≤ c && c ≤ '9'

/-- The value of a digit in a base up to sixteen, letters being of either case. -/
def digit? (base : Nat) (c : Char) : Option Nat :=
  let value :=
    if '0' ≤ c && c ≤ '9' then c.toNat - '0'.toNat
    else if 'a' ≤ c && c ≤ 'f' then c.toNat - 'a'.toNat + 10
    else if 'A' ≤ c && c ≤ 'F' then c.toNat - 'A'.toNat + 10
    else base
  if value < base then some value else none

/-- The number that a run of digits denotes in a base; no digits denote 0. -/
def ofBase? (base : Nat) (cs : List Char) : Option Nat :=
  (cs.mapM (digit? base)).map fun digits => digits.foldl (fun n d => n * base + d) 0

/-- The number that a run of decimal digits denotes. -/
def ofDigits (cs : List Char) : Nat :=
  cs.foldl (fun n c => n * 10 + (c.toNat - '0'.toNat)) 0

@[simp] theorem ofDigits_nil : ofDigits [] = 0 := rfl

end MetadataHarvest.Number
