import MetadataHarvest.Text.CompositionTable

/-!
# Canonical composition

The composed normal form of a text: every character is decomposed, the marks of a base
are put in the order of their combining classes, and what composes with its base is
composed again. Hangul syllables are composed and decomposed by arithmetic.
-/

namespace MetadataHarvest.Text

namespace Hangul

def syllableBase : Nat := 0xAC00

def leadBase : Nat := 0x1100

def vowelBase : Nat := 0x1161

def trailBase : Nat := 0x11A7

def leadCount : Nat := 19

def vowelCount : Nat := 21

def trailCount : Nat := 28

/-- The jamo of a syllable. -/
def decompose? (n : Nat) : Option (List Nat) :=
  if syllableBase ≤ n && n < syllableBase + leadCount * vowelCount * trailCount then
    let index := n - syllableBase
    let lead := leadBase + index / (vowelCount * trailCount)
    let vowel := vowelBase + index % (vowelCount * trailCount) / trailCount
    let trail := index % trailCount
    some (if trail = 0 then [lead, vowel] else [lead, vowel, trailBase + trail])
  else none

/-- The syllable of a lead and a vowel, or of a syllable without a trail and a trail. -/
def compose? (first second : Nat) : Option Nat :=
  if leadBase ≤ first && first < leadBase + leadCount
      && vowelBase ≤ second && second < vowelBase + vowelCount then
    some (syllableBase
      + ((first - leadBase) * vowelCount + (second - vowelBase)) * trailCount)
  else if syllableBase ≤ first && first < syllableBase + leadCount * vowelCount * trailCount
      && (first - syllableBase) % trailCount = 0
      && trailBase < second && second < trailBase + trailCount then
    some (first + (second - trailBase))
  else none

end Hangul

/-- The place of `c` among the marks of one base; 0 for a character that starts anew. -/
def combiningClass (c : Char) : Nat :=
  match combiningClasses.floor? c.toNat with
  | some (_, last, order) => if c.toNat ≤ last then order else 0
  | none => 0

/-- The full canonical decomposition of a code point. -/
def decomposeCode (n : Nat) : List Nat :=
  ((Hangul.decompose? n).or (decompositions.find? n)).getD [n]

/-- The full canonical decomposition of `c`. -/
def decomposeChar (c : Char) : List Char := (decomposeCode c.toNat).map Char.ofNat

/-- The code point that two code points compose to. -/
def composeCodes? (first second : Nat) : Option Nat :=
  (Hangul.compose? first second).or (compositions.find? (pairKey first second))

/-- The character that `first` followed by `second` composes to. -/
def composePair? (first second : Char) : Option Char :=
  (composeCodes? first.toNat second.toNat).map Char.ofNat

/-- `c` put before the marks at the front of an ordered text whose class is not smaller. -/
def insertMark (c : Char) : List Char → List Char
  | [] => [c]
  | d :: ds =>
    if 0 < combiningClass d && combiningClass d < combiningClass c then d :: insertMark c ds
    else c :: d :: ds

/-- The marks of every base in the order of their classes; equal classes keep their order. -/
def orderMarks : List Char → List Char
  | [] => []
  | c :: cs => if combiningClass c = 0 then c :: orderMarks cs else insertMark c (orderMarks cs)

def decompose (cs : List Char) : List Char := orderMarks (cs.flatMap decomposeChar)

/-- Composes a decomposed text after `base`; `held` are the marks since then that did not
compose, latest first. -/
def composeAfter (base : Char) (held : List Char) : List Char → List Char
  | [] => base :: held.reverse
  | c :: cs =>
    let blocked := match held with
      | [] => false
      | last :: _ => combiningClass c ≤ combiningClass last
    match if blocked then none else composePair? base c with
    | some composite => composeAfter composite held cs
    | none =>
      if combiningClass c = 0 then base :: held.reverse ++ composeAfter c [] cs
      else composeAfter base (c :: held) cs

/-- Composes a decomposed text; marks in front of the first base stay as they are. -/
def compose : List Char → List Char
  | [] => []
  | c :: cs => if combiningClass c = 0 then composeAfter c [] cs else c :: compose cs

/-- The composed canonical normal form. -/
def composed (cs : List Char) : List Char := compose (decompose cs)

end MetadataHarvest.Text
