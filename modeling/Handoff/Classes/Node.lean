import Handoff.Classes.ClassList
import Handoff.Classes.Color
import Handoff.Classes.Spacing
import Handoff.Classes.Typography
import Handoff.Design.Node

/-!
The classes of a layer, gathered in a fixed order: layout, size, background, border, corners,
shadows, opacity, clipping, breakpoints and, for text, typography.
-/
namespace Handoff.Classes

/-- A row of two or more children becomes a column on small screens. -/
def isStacked (node : Node) : Bool :=
  node.value.layout.direction == .horizontal && decide (2 ≤ node.children.length)

/-- Layout classes, led by the classes of a stack where a row becomes a column. -/
def containerClasses (node : Node) : List String :=
  let layout := layoutClasses node.value.layout
  if isStacked node then
    ["flex", "flex-col", "md:flex-row"]
      ++ layout.filter fun name => name != "flex" && name != "flex-row"
  else layout

def sizeClasses (axis : String) : Size → List String
  | .fill => [axis ++ "-full"]
  | .auto => [axis ++ "-fit"]
  | .fixed _ => []

def boundClasses (bound : String) (value : Option Binary64) : List String :=
  match value.filter (0 < ·) with
  | some pixels => [bound ++ "-[" ++ pixels.round.plain ++ "px]"]
  | none => []

def dimensionClasses (dimensions : Dimensions) : List String :=
  sizeClasses "w" dimensions.width ++ sizeClasses "h" dimensions.height
    ++ boundClasses "min-w" dimensions.minWidth ++ boundClasses "max-w" dimensions.maxWidth

/-- Texts and icons have no background. -/
def backgroundClasses (layer : Layer) (tokens : Option TokenMap) : List String :=
  if layer.role = .text ∨ layer.role = .icon then [] else fillClasses layer.fills tokens

/-- Only the first border is shown. -/
def borderClasses (borders : List Border) (tokens : Option TokenMap) : List String :=
  match borders with
  | [] => []
  | border :: _ =>
    ["border"] ++ (if 1 < border.width then ["border-[" ++ quantity border.width ++ "px]"] else [])
      ++ borderStyleClasses border.style ++ [colorClass "border" border.color tokens]

def opacityClasses (opacity : Binary64) : List String :=
  if opacity < 1 then ["opacity-" ++ toString (percentage opacity)] else []

/-- A generous upper bound on the width holds from a breakpoint on. -/
def maxWidthClasses (dimensions : Dimensions) : List String :=
  match dimensions.maxWidth.filter (0 < ·) with
  | some pixels =>
    if 1280 ≤ pixels then ["xl:max-w-[" ++ quantity pixels ++ "px]"]
    else if 1024 ≤ pixels then ["lg:max-w-[" ++ quantity pixels ++ "px]"]
    else []
  | none => []

/-- A wide fixed width gives way on small screens. -/
def fixedWidthClasses (dimensions : Dimensions) : List String :=
  match dimensions.width with
  | .fixed pixels =>
    if 640 ≤ pixels then
      ["sm:w-full"] ++ if 768 ≤ pixels then ["md:w-[" ++ quantity pixels ++ "px]"] else []
    else []
  | _ => []

def responsiveClasses (layer : Layer) : List String :=
  (if layer.layout.isHorizontal then ["md:flex-row"] else [])
    ++ maxWidthClasses layer.dimensions ++ fixedWidthClasses layer.dimensions

/-- The colour of a text is that of its first paint, if that is a plain one. -/
def foregroundClasses (layer : Layer) (tokens : Option TokenMap) : List String :=
  match layer.fills.head?.bind Fill.solidColor? with
  | some color => [colorClass "text" color tokens]
  | none => []

def textClasses (layer : Layer) (tokens : Option TokenMap) : List String :=
  (match layer.textStyle with
    | some style => textStyleClasses style
    | none => []) ++ foregroundClasses layer tokens

/-- The stages of a layer's classes, in their order. -/
def nodeStages (node : Node) (tokens : Option TokenMap) : List (List String) :=
  let layer := node.value
  [containerClasses node,
   dimensionClasses layer.dimensions,
   backgroundClasses layer tokens,
   borderClasses layer.borders tokens,
   radiusClasses layer.radii,
   layer.shadows.map shadowClass,
   opacityClasses layer.opacity,
   if layer.clipContent then ["overflow-hidden"] else [],
   responsiveClasses layer,
   if layer.role = .text then textClasses layer tokens else []]

def nodeClasses (node : Node) (tokens : Option TokenMap) : ClassList :=
  .ofList (nodeStages node tokens).flatten

end Handoff.Classes
