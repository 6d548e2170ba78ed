/-!
# Tables of code points

Properties of characters are kept as compact text: numbers in hexadecimal, separated by
blanks, in groups separated by commas. `RangeSet` reads a group as one range of code
points, `RunMap` as a run of code points that all move by the same distance, and
`SequenceMap` as a code point followed by what replaces it. Groups are sorted, so a
look-up halves the table until one group is left.
-/

namespace MetadataHarvest.Text

namespace Table

/-- The groups read so far, the numbers of the open group, and the open number. -/
structure Reading where
  groups : Array (List Nat)
  group : List Nat
  number : Option Nat

namespace Reading

def start : Reading := ⟨#[], [], none⟩

def closeNumber (r : Reading) : Reading :=
  match r.number with
  | none => r
  | some n => { r with group := n :: r.group, number := none }

def closeGroup (r : Reading) : Reading :=
  let r := r.closeNumber
  { r with groups := r.groups.push r.group.reverse, group := [] }

/-- The value of a lower-case hexadecimal digit. -/
def digit? (c : Char) : Option Nat :=
  if '0' ≤ c && c ≤ '9' then some (c.toNat - '0'.toNat)
  else if 'a' ≤ c && c ≤ 'f' then some (c.toNat - 'a'.toNat + 10)
  else none

def step (r : Reading) (c : Char) : Reading :=
  match digit? c with
  | some d => { r with number := some (r.number.getD 0 * 16 + d) }
  | none => if c = ',' then r.closeGroup else r.closeNumber

end Reading

/-- The groups of numbers that a table's text holds. -/
def groups (text : String) : Array (List Nat) :=
  (text.foldl Reading.step Reading.start).closeGroup.groups

/-- The first index from `low` to `high` that is not `below`, where those that are come first. -/
def firstNot (below : Nat → Bool) (low high : Nat) : Nat :=
  if h : low < high then
    let middle := (low + high) / 2
    if below middle then firstNot below (middle + 1) high else firstNot below low middle
  else low
termination_by high - low
decreasing_by all_goals omega

/-- The last entry whose key is at most `n`. -/
def floor? {α : Type} (entries : Array (Nat × α)) (n : Nat) : Option (Nat × α) :=
  let above := firstNot
    (fun i => (entries[i]?.map fun entry => decide (entry.1 ≤ n)).getD false) 0 entries.size
  if above = 0 then none else entries[above - 1]?

end Table

/-- A set of code points as the last code point of each range, keyed by the first. -/
structure RangeSet where
  ranges : Array (Nat × Nat)

namespace RangeSet

def ofText (text : String) : RangeSet where
  ranges := (Table.groups text).filterMap fun
    | [first] => some (first, first)
    | [first, last] => some (first, last)
    | _ => none

def contains (s : RangeSet) (n : Nat) : Bool :=
  match Table.floor? s.ranges n with
  | some (_, last) => n ≤ last
  | none => false

end RangeSet

/-- Runs of code points `first`, `first + step`, … up to `last`, the first of which goes to
`target` and the others the same distance away. -/
structure RunMap where
  runs : Array (Nat × (Nat × Nat × Nat))

namespace RunMap

def ofText (text : String) : RunMap where
  runs := (Table.groups text).filterMap fun
    | [first, last, step, target] => some (first, last, step, target)
    | _ => none

def find? (m : RunMap) (n : Nat) : Option Nat :=
  match Table.floor? m.runs n with
  | some (first, last, step, target) =>
    if n ≤ last && (n - first) % step = 0 then some (target + (n - first)) else none
  | none => none

end RunMap

/-- Code points together with the sequences that replace them. -/
structure SequenceMap where
  entries : Array (Nat × List Nat)

namespace SequenceMap

def ofText (text : String) : SequenceMap where
  entries := (Table.groups text).filterMap fun
    | key :: sequence => some (key, sequence)
    | [] => none

def find? (m : SequenceMap) (n : Nat) : Option (List Nat) :=
  match Table.floor? m.entries n with
  | some (key, sequence) => if key = n then some sequence else none
  | none => none

end SequenceMap

end MetadataHarvest.Text
