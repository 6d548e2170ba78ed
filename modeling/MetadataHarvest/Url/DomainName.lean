import MetadataHarvest.Text.Scan
import MetadataHarvest.Url.Direction
import MetadataHarvest.Url.DomainTable
import MetadataHarvest.Url.Punycode

/-!
# Domain names

A domain name is mapped character by character, composed, and cut into labels at its dots.
Labels in ASCII form are decoded, and what comes out must be what a domain name may hold
as it is.
-/

namespace MetadataHarvest.Url.DomainName

open MetadataHarvest.Text

/-- Characters that would end or confuse the host of an address. -/
def isForbidden (c : Char) : Bool :=
  c.toNat ≤ 0x20 || c.toNat = 0x7F || "%#/:<>?@[\\]^|".toList.contains c

/-- What replaces a character; none if no domain name may hold it. -/
def mapChar? (c : Char) : Option (List Char) :=
  let n := c.toNat
  if n < 0x80 then some [c.toLower]
  else if disallowedRanges.contains n then none
  else if ignoredRanges.contains n then some []
  else match mappedSequences.find? n with
    | some sequence => some (sequence.map Char.ofNat)
    | none => some [((mappedRuns.find? n).map Char.ofNat).getD c]

/-- Whether mapping and composing leave a text as it is. -/
def isStable (cs : List Char) : Bool :=
  cs.all (fun c => mapChar? c == some [c]) && composed cs == cs

/-- The label that is written so: one in ASCII form stands for another, which must need
that form. -/
def label? (cs : List Char) : Option (List Char) :=
  match cs with
  | 'x' :: 'n' :: '-' :: '-' :: digits =>
    (Punycode.decode? digits).filter fun label =>
      label.any (0x80 ≤ ·.toNat) && isStable label
  | _ => some cs

/-- Whether a label may stand in a domain name of one direction. -/
def isLabel (label : List Char) : Bool :=
  !label.any isForbidden
    && (label.head?.map fun c => markRanges.contains c.toNat) != some true
    && joinersShow [] label

/-- The text between dots. -/
def splitDots : List Char → List (List Char)
  | [] => [[]]
  | c :: cs =>
    if c = '.' then [] :: splitDots cs
    else match splitDots cs with
      | [] => [[c]]
      | part :: parts => (c :: part) :: parts

/-- The labels of a domain name. -/
def labels? (cs : List Char) : Option (List (List Char)) := do
  let mapped ← cs.mapM mapChar?
  let labels ← (splitDots (composed mapped.flatten)).mapM label?
  let mixed := labels.any fun label => label.any fun c => (Direction.ofChar c).isRightward
  if labels.all isLabel && (!mixed || labels.all keepsDirection) then some labels else none

end MetadataHarvest.Url.DomainName
