import Handoff.Design.Layout
import Handoff.Document.Basic

/-!
How a shape's automatic layout and sizes are read. What is missing or not understood falls back to
the start of an axis, no spacing and no axis at all.
-/
namespace Handoff.Interpretation

/-- A number, or zero if it is negative. -/
def nonNegative (value : Binary64) : Binary64 := if 0 < value then value else 0

/-- A length, zero if it is missing, negative or not a finite number. -/
def lengthOf (value : Option Binary64) : Binary64 :=
  nonNegative ((value.filter Binary64.isFinite).getD 0)

def alignmentOf : Option Document.AxisAlign → Alignment
  | some .center => .center
  | some .max => .finish
  | some .baseline => .baseline
  | _ => .start

def justificationOf : Option Document.AxisAlign → Justification
  | some .center => .center
  | some .max => .finish
  | some .spaceBetween => .between
  | _ => .start

def directionOf (mode : Option Document.LayoutMode) (wrap : Bool) : Direction :=
  match mode with
  | some .horizontal => .horizontal
  | some .vertical => .vertical
  | _ => if wrap then .wrap else .none

def layoutOf (shape : Document.Shape) : Layout :=
  let wrap := shape.layoutWrap == some .wrap
  { direction := directionOf shape.layoutMode wrap
    alignItems := alignmentOf shape.counterAxisAlignItems
    justifyContent := justificationOf shape.primaryAxisAlignItems
    gap := lengthOf shape.itemSpacing
    padding :=
      { top := lengthOf shape.paddingTop
        right := lengthOf shape.paddingRight
        bottom := lengthOf shape.paddingBottom
        left := lengthOf shape.paddingLeft }
    wrap }

/-- An extent that fills or hugs, or else the measured one. -/
def sizeOf (mode : Option Document.SizingMode) (extent : Option Binary64) : Size :=
  match mode with
  | some .fill => .fill
  | some .hug => .auto
  | _ => .fixed (lengthOf extent)

def dimensionsOf (shape : Document.Shape) : Dimensions where
  width := sizeOf shape.layoutSizingHorizontal (shape.absoluteBoundingBox.map (·.width))
  height := sizeOf shape.layoutSizingVertical (shape.absoluteBoundingBox.map (·.height))
  minWidth := shape.minWidth
  maxWidth := shape.maxWidth
  minHeight := shape.minHeight
  maxHeight := shape.maxHeight

end Handoff.Interpretation
