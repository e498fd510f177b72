import Handoff.Binary64.Arithmetic
import Handoff.Binary64.Text
import Handoff.Design.Style

/-!
Classes for corners, shadows and borders, and how quantities are written inside classes.
-/
namespace Handoff.Classes

/-- A quantity with at most two places. -/
def quantity (value : Binary64) : String := ((value * 100).round / 100).plain

def radiusScale : List (Binary64 × String) :=
  [(2, "rounded-sm"), (4, "rounded"), (6, "rounded-md"), (8, "rounded-lg"), (12, "rounded-xl"),
   (16, "rounded-2xl"), (24, "rounded-3xl"), (9999, "rounded-full")]

/-- Radii no farther than this from a named one are written with its name. -/
def radiusTolerance : Binary64 := 2

/-- The nearer of the best radius so far and a candidate, with its distance. -/
def nearerRadius (radius : Binary64) (best : Option (Binary64 × String))
    (candidate : Binary64 × String) : Option (Binary64 × String) :=
  let distance := (candidate.1 - radius).abs
  match best with
  | some (least, name) =>
    if least ≤ distance then some (least, name) else some (distance, candidate.2)
  | none => some (distance, candidate.2)

/-- The class of a radius that all corners share. -/
def uniformRadiusClass (radius : Binary64) : String :=
  let literal := "rounded-[" ++ quantity radius ++ "px]"
  match radiusScale.foldl (nearerRadius radius) none with
  | some (distance, name) => if distance ≤ radiusTolerance then name else literal
  | none => literal

/-- One class for corners that are alike, else one for each rounded corner. -/
def radiusClasses (radii : CornerRadii) : List String :=
  if radii.isUniform then
    if radii.topLeft ≤ 0 then [] else [uniformRadiusClass radii.topLeft]
  else
    ([("tl", radii.topLeft), ("tr", radii.topRight), ("br", radii.bottomRight),
        ("bl", radii.bottomLeft)].filter fun (_, radius) => 0 < radius).map
      fun (corner, radius) => "rounded-" ++ corner ++ "-[" ++ quantity radius ++ "px]"

/-- Shadows fall into tiers by their blur and their vertical offset. -/
def shadowClass (shadow : Shadow) : String :=
  let within (blur offset : Binary64) : Bool := shadow.blur ≤ blur && shadow.offsetY ≤ offset
  if shadow.kind = .inner then "shadow-inner"
  else if within 3 1 then "shadow-sm"
  else if within 6 2 then "shadow"
  else if within 10 4 then "shadow-md"
  else if within 15 6 then "shadow-lg"
  else if within 25 10 then "shadow-xl"
  else "shadow-2xl"

def borderStyleClasses : BorderStyle → List String
  | .solid => []
  | .dashed => ["border-dashed"]
  | .dotted => ["border-dotted"]

end Handoff.Classes
