import Handoff.Design.Color
import Handoff.Named

/-!
What a layer looks like: its paint, outline, shadows, corners and typography.
-/
namespace Handoff

structure GradientStop where
  position : Binary64
  color : Color
  deriving DecidableEq

/-- A layer of paint. -/
inductive Fill where
  | solid (color : Color)
  | linear (stops : List GradientStop)
  | radial (stops : List GradientStop)
  | image (reference : Option String)
  deriving DecidableEq

namespace Fill

def solidColor? : Fill → Option Color
  | .solid color => some color
  | _ => none

def isImage : Fill → Bool
  | .image _ => true
  | _ => false

end Fill

inductive BorderStyle where
  | solid
  | dashed
  | dotted
  deriving DecidableEq

instance : Named BorderStyle where
  all := [.solid, .dashed, .dotted]
  name
    | .solid => "solid"
    | .dashed => "dashed"
    | .dotted => "dotted"
  complete a := by cases a <;> decide
  distinct := by decide

structure Border where
  color : Color
  width : Binary64
  style : BorderStyle
  deriving DecidableEq

inductive ShadowKind where
  | drop
  | inner
  deriving DecidableEq

instance : Named ShadowKind where
  all := [.drop, .inner]
  name
    | .drop => "drop"
    | .inner => "inner"
  complete a := by cases a <;> decide
  distinct := by decide

structure Shadow where
  kind : ShadowKind
  color : Color
  offsetX : Binary64
  offsetY : Binary64
  blur : Binary64
  spread : Binary64
  deriving DecidableEq

/-- Corner radii in pixels. -/
structure CornerRadii where
  topLeft : Binary64
  topRight : Binary64
  bottomRight : Binary64
  bottomLeft : Binary64
  deriving DecidableEq

namespace CornerRadii

def uniform (radius : Binary64) : CornerRadii := ⟨radius, radius, radius, radius⟩

def isUniform (radii : CornerRadii) : Bool :=
  radii.topLeft.equals radii.topRight && radii.topRight.equals radii.bottomRight
    && radii.bottomRight.equals radii.bottomLeft

end CornerRadii

inductive TextAlign where
  | left
  | center
  | right
  | justify
  deriving DecidableEq

instance : Named TextAlign where
  all := [.left, .center, .right, .justify]
  name
    | .left => "left"
    | .center => "center"
    | .right => "right"
    | .justify => "justify"
  complete a := by cases a <;> decide
  distinct := by decide

inductive TextTransform where
  | none
  | uppercase
  | lowercase
  | capitalize
  deriving DecidableEq

instance : Named TextTransform where
  all := [.none, .uppercase, .lowercase, .capitalize]
  name
    | .none => "none"
    | .uppercase => "uppercase"
    | .lowercase => "lowercase"
    | .capitalize => "capitalize"
  complete a := by cases a <;> decide
  distinct := by decide

inductive TextDecoration where
  | none
  | underline
  | lineThrough
  deriving DecidableEq

instance : Named TextDecoration where
  all := [.none, .underline, .lineThrough]
  name
    | .none => "none"
    | .underline => "underline"
    | .lineThrough => "line-through"
  complete a := by cases a <;> decide
  distinct := by decide

/-- The typography of a text. -/
structure TextStyle where
  fontFamily : String
  fontWeight : UInt16
  fontSize : Binary64
  lineHeight : Binary64
  letterSpacing : Binary64
  textAlign : TextAlign
  textTransform : TextTransform
  textDecoration : TextDecoration
  italic : Bool
  deriving DecidableEq

end Handoff
