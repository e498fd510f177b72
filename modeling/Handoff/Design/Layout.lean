import Handoff.Binary64.Arithmetic
import Handoff.Named

/-!
How a layer lays out its children and how large it is.
-/
namespace Handoff

inductive Direction where
  | horizontal
  | vertical
  | wrap
  | none
  deriving DecidableEq

instance : Named Direction where
  all := [.horizontal, .vertical, .wrap, .none]
  name
    | .horizontal => "horizontal"
    | .vertical => "vertical"
    | .wrap => "wrap"
    | .none => "none"
  complete a := by cases a <;> decide
  distinct := by decide

/-- Alignment across the layout's direction. -/
inductive Alignment where
  | start
  | center
  | finish
  | stretch
  | baseline
  deriving DecidableEq

instance : Named Alignment where
  all := [.start, .center, .finish, .stretch, .baseline]
  name
    | .start => "start"
    | .center => "center"
    | .finish => "end"
    | .stretch => "stretch"
    | .baseline => "baseline"
  complete a := by cases a <;> decide
  distinct := by decide

/-- Distribution along the layout's direction. -/
inductive Justification where
  | start
  | center
  | finish
  | between
  deriving DecidableEq

instance : Named Justification where
  all := [.start, .center, .finish, .between]
  name
    | .start => "start"
    | .center => "center"
    | .finish => "end"
    | .between => "between"
  complete a := by cases a <;> decide
  distinct := by decide

structure Padding where
  top : Binary64
  right : Binary64
  bottom : Binary64
  left : Binary64
  deriving DecidableEq

namespace Padding

def uniform (value : Binary64) : Padding := ⟨value, value, value, value⟩

def isZero (p : Padding) : Bool :=
  p.top.equals 0 && p.right.equals 0 && p.bottom.equals 0 && p.left.equals 0

end Padding

structure Layout where
  direction : Direction
  alignItems : Alignment
  justifyContent : Justification
  gap : Binary64
  padding : Padding
  wrap : Bool
  deriving DecidableEq

namespace Layout

def free : Layout := ⟨.none, .start, .start, 0, .uniform 0, false⟩

def isFlex (layout : Layout) : Bool := layout.direction != .none

def isHorizontal (layout : Layout) : Bool := layout.direction == .horizontal

end Layout

/-- An extent: a number of pixels, as much as the content needs, or as much as there is. -/
inductive Size where
  | fixed (pixels : Binary64)
  | auto
  | fill
  deriving DecidableEq

def Size.pixels? : Size → Option Binary64
  | .fixed pixels => some pixels
  | _ => none

structure Dimensions where
  width : Size
  height : Size
  minWidth : Option Binary64
  maxWidth : Option Binary64
  minHeight : Option Binary64
  maxHeight : Option Binary64
  deriving DecidableEq

namespace Dimensions

def ofSizes (width height : Size) : Dimensions := ⟨width, height, none, none, none, none⟩

def zero : Dimensions := ofSizes (.fixed 0) (.fixed 0)

end Dimensions

end Handoff
