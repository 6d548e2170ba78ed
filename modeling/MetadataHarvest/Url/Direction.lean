import MetadataHarvest.Text.Composition
import MetadataHarvest.Url.DirectionTable

/-!
# Labels that can be read without ambiguity

When a domain name holds a character that runs right to left, each of its labels must keep
to one direction. A joiner may stand only where it shows: after a virama, or between
characters that would join across it.
-/

namespace MetadataHarvest.Url

open MetadataHarvest.Text

/-- The direction of a character as far as labels go. -/
inductive Direction where
  | leftToRight
  | rightToLeft
  | arabicNumber
  | europeanNumber
  | nonspacing
  | neutral
  deriving DecidableEq

def Direction.ofChar (c : Char) : Direction :=
  let n := c.toNat
  if rightToLeftRanges.contains n then rightToLeft
  else if arabicNumberRanges.contains n then arabicNumber
  else if europeanNumberRanges.contains n then europeanNumber
  else if nonspacingRanges.contains n then nonspacing
  else if neutralRanges.contains n then neutral
  else leftToRight

/-- Whether a domain name with this character is one with two directions. -/
def Direction.isRightward : Direction → Bool
  | rightToLeft | arabicNumber => true
  | _ => false

/-- Whether a label keeps to one direction. -/
def keepsDirection (label : List Char) : Bool :=
  let directions := label.map Direction.ofChar
  let ending := (directions.reverse.dropWhile (· = .nonspacing)).head?
  match directions with
  | [] => true
  | .leftToRight :: rest =>
    rest.all (fun d => d != .rightToLeft && d != .arabicNumber)
      && (ending == some .leftToRight || ending == some .europeanNumber)
  | .rightToLeft :: rest =>
    rest.all (· != .leftToRight)
      && (ending == some .rightToLeft || ending == some .europeanNumber
        || ending == some .arabicNumber)
      && !(rest.contains .europeanNumber && rest.contains .arabicNumber)
  | _ => false

/-- The characters across which others join, dropped from the front. -/
def dropTransparent (cs : List Char) : List Char :=
  cs.dropWhile fun c => transparentRanges.contains c.toNat

/-- Whether characters would join across a place; `before` is what precedes it, nearest
first, and `after` what follows. -/
def joinsAcross (before after : List Char) : Bool :=
  let left := (dropTransparent before).head?
  let right := (dropTransparent after).head?
  (left.map fun c => joinsLeftRanges.contains c.toNat || joinsBothRanges.contains c.toNat)
      == some true
    && (right.map fun c => joinsRightRanges.contains c.toNat || joinsBothRanges.contains c.toNat)
      == some true

/-- Whether every joiner stands where it shows; `before` is what precedes, nearest first. -/
def joinersShow (before : List Char) : List Char → Bool
  | [] => true
  | c :: cs =>
    let afterVirama := (before.head?.map combiningClass) == some 9
    (if c.toNat = 0x200D then afterVirama
      else if c.toNat = 0x200C then afterVirama || joinsAcross before cs
      else true)
      && joinersShow (c :: before) cs

end MetadataHarvest.Url
