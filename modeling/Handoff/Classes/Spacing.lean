import Handoff.Binary64.Arithmetic
import Handoff.Design.Layout

/-!
Classes for spacing and flexible layout. A distance is rounded to whole pixels and written as a step
of the scale, or literally when the scale has no such step.
-/
namespace Handoff.Classes

def spacingScale : List (Int × String) :=
  [(0, "0"), (1, "px"), (2, "0.5"), (4, "1"), (6, "1.5"), (8, "2"), (10, "2.5"), (12, "3"),
   (14, "3.5"), (16, "4"), (20, "5"), (24, "6"), (28, "7"), (32, "8"), (36, "9"), (40, "10"),
   (44, "11"), (48, "12"), (56, "14"), (64, "16"), (80, "20"), (96, "24"), (112, "28"), (128, "32"),
   (144, "36"), (160, "40"), (176, "44"), (192, "48"), (208, "52"), (224, "56"), (240, "60"),
   (256, "64"), (288, "72"), (320, "80"), (384, "96")]

/-- A distance in whole pixels, a half going away from zero, within 64 bits. -/
def wholePixels (pixels : Binary64) : Int :=
  pixels.roundToInt (-9223372036854775808) 9223372036854775807

def spacingStep (pixels : Int) : String :=
  match spacingScale.find? (·.1 = pixels) with
  | some (_, step) => step
  | none => "[" ++ toString pixels ++ "px]"

def spacing (pixels : Binary64) : String := spacingStep (wholePixels pixels)

/-- Padding in its shortest form: one class for all sides, one for each pair of sides, or one for
each side that has padding. -/
def paddingClasses (padding : Padding) : List String :=
  if padding.isZero then []
  else if padding.top.equals padding.right && padding.right.equals padding.bottom
      && padding.bottom.equals padding.left && 0 < padding.top then
    ["p-" ++ spacing padding.top]
  else if padding.top.equals padding.bottom && 0 < padding.top
      && padding.left.equals padding.right && 0 < padding.left then
    ["px-" ++ spacing padding.left, "py-" ++ spacing padding.top]
  else
    let sides := [("pt-", padding.top), ("pr-", padding.right), ("pb-", padding.bottom),
      ("pl-", padding.left)]
    (sides.filter fun (_, value) => 0 < value).map fun (side, value) => side ++ spacing value

def alignmentClass : Alignment → String
  | .start => "items-start"
  | .center => "items-center"
  | .finish => "items-end"
  | .stretch => "items-stretch"
  | .baseline => "items-baseline"

def justificationClass : Justification → String
  | .start => "justify-start"
  | .center => "justify-center"
  | .finish => "justify-end"
  | .between => "justify-between"

/-- Classes of a flexible layout. Without an axis there are none, not even for padding. -/
def layoutClasses (layout : Layout) : List String :=
  if layout.isFlex then
    ["flex"] ++ (if layout.direction = .vertical then ["flex-col"] else [])
      ++ (if layout.wrap then ["flex-wrap"] else [])
      ++ [alignmentClass layout.alignItems, justificationClass layout.justifyContent]
      ++ (if 0 < layout.gap then ["gap-" ++ spacing layout.gap] else [])
      ++ paddingClasses layout.padding
  else []

end Handoff.Classes
