import MetadataHarvest.Number.Literal
import MetadataHarvest.Text.Blank

/-!
# Coordinates

A coordinate is written as a floating-point literal and must be finite.
-/

namespace MetadataHarvest

open Number

/-- Why a text is no coordinate. -/
inductive CoordinateFault where
  | literal (fault : LiteralFault)
  | notFinite
  deriving DecidableEq

/-- What is said of a text that is no coordinate. -/
def CoordinateFault.message (value : String) : CoordinateFault → String
  | literal fault => s!"'{value}': {fault.message}"
  | notFinite => s!"'{value}': not a finite number"

/-- The coordinate that a text denotes. -/
def coordinate (value : String) : Except CoordinateFault Binary64 :=
  match readLiteral (Text.trim value.toList) with
  | .error fault => .error (.literal fault)
  | .ok x => if x.isFinite then .ok x else .error .notFinite

theorem isFinite_of_coordinate {value : String} {x : Binary64} (h : coordinate value = .ok x) :
    x.isFinite = true := by
  unfold coordinate at h
  split at h
  · cases h
  · split at h
    · next hx =>
        cases h
        exact hx
    · cases h

end MetadataHarvest
