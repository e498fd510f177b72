import Handoff.Design.Style
import Handoff.Interpretation.Layout

/-!
How a shape's paints, outlines, effects, corners and typography are read.
-/
namespace Handoff.Interpretation

/-- A colour, made more transparent by the opacity of its paint. -/
def colorOf (color : Document.UnitColor) (opacity : Option Binary64) : Color :=
  .ofUnit color.red color.green color.blue (color.alpha * opacity.getD 1)

def stopsOf (stops : List Document.ColorStop) (opacity : Option Binary64) : List GradientStop :=
  stops.map fun stop => ⟨stop.position, colorOf stop.color opacity⟩

/-- A visible paint of a kind that can be shown. A plain paint needs a colour. -/
def fillOf? (paint : Document.Paint) : Option Fill :=
  if paint.visible then
    match paint.kind with
    | .solid => paint.color.map fun color => .solid (colorOf color paint.opacity)
    | .gradientLinear => some (.linear (stopsOf paint.gradientStops paint.opacity))
    | .gradientRadial => some (.radial (stopsOf paint.gradientStops paint.opacity))
    | .image => some (.image paint.imageRef)
    | .gradientAngular | .gradientDiamond | .other => none
  else none

def fillsOf (shape : Document.Shape) : List Fill := shape.fills.filterMap fillOf?

/-- The width that all outlines of a shape share. -/
def strokeWidth (shape : Document.Shape) : Binary64 := nonNegative (shape.strokeWeight.getD 1)

/-- Dashes no longer than the outline is wide look like dots. -/
def strokeStyle (shape : Document.Shape) : BorderStyle :=
  if shape.strokeDashes.any (0 < ·) then
    if shape.strokeDashes.all (· ≤ strokeWidth shape) then .dotted else .dashed
  else .solid

/-- Visible outlines with a colour. -/
def bordersOf (shape : Document.Shape) : List Border :=
  (shape.strokes.filter (·.visible)).filterMap fun paint =>
    paint.color.map fun color =>
      ⟨colorOf color paint.opacity, strokeWidth shape, strokeStyle shape⟩

def shadowKind? : Document.EffectKind → Option ShadowKind
  | .dropShadow => some .drop
  | .innerShadow => some .inner
  | _ => none

/-- The colour of a shadow that does not name one. -/
def defaultShadowColor : Color := .rgba 0 0 0 (1 / 4)

def shadowOf? (effect : Document.Effect) : Option Shadow :=
  (shadowKind? effect.kind).map fun kind =>
    let offset := effect.offset.getD ⟨0, 0⟩
    { kind
      color := match effect.color with
        | some color => colorOf color none
        | none => defaultShadowColor
      offsetX := offset.x
      offsetY := offset.y
      blur := nonNegative effect.radius
      spread := effect.spread.getD 0 }

def shadowsOf (shape : Document.Shape) : List Shadow :=
  (shape.effects.filter (·.visible)).filterMap shadowOf?

/-- Radii of single corners win over the radius of all corners. -/
def radiiOf (shape : Document.Shape) : CornerRadii :=
  match shape.rectangleCornerRadii with
  | some radii =>
    { topLeft := nonNegative radii.topLeft
      topRight := nonNegative radii.topRight
      bottomRight := nonNegative radii.bottomRight
      bottomLeft := nonNegative radii.bottomLeft }
  | none => .uniform (nonNegative (shape.cornerRadius.getD 0))

def textAlignOf : Option Document.HorizontalAlign → TextAlign
  | some .center => .center
  | some .right => .right
  | some .justified => .justify
  | _ => .left

def textTransformOf : Option Document.TextCase → TextTransform
  | some .upper => .uppercase
  | some .lower => .lowercase
  | some .title => .capitalize
  | _ => .none

def textDecorationOf : Option Document.Decoration → TextDecoration
  | some .underline => .underline
  | some .strikethrough => .lineThrough
  | _ => .none

/-- A font weight is the nearest whole number between 1 and 1000. -/
def fontWeightOf (weight : Binary64) : UInt16 := .ofNat (weight.roundToInt 1 1000).toNat

def textStyleOf (style : Document.TypeStyle) : TextStyle where
  fontFamily := style.fontFamily.getD ""
  fontWeight := match style.fontWeight with
    | some weight => fontWeightOf weight
    | none => 400
  fontSize := style.fontSize.getD 16
  lineHeight := style.lineHeightPx.getD 0
  letterSpacing := style.letterSpacing.getD 0
  textAlign := textAlignOf style.textAlignHorizontal
  textTransform := textTransformOf style.textCase
  textDecoration := textDecorationOf style.textDecoration
  italic := style.italic.getD false

end Handoff.Interpretation
