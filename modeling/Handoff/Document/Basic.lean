import Handoff.Binary64.Basic
import Handoff.Named
import Handoff.OrderedMap
import Handoff.Tree

/-!
Design documents as the design service sends them. Only what is read later is kept, and a name that
is not known stands for a case of its own, so that a document with new features can still be read.
-/
namespace Handoff.Document

/-- What a shape of the document is. -/
inductive Kind where
  | document
  | canvas
  | frame
  | group
  | section
  | component
  | componentSet
  | componentInstance
  | text
  | rectangle
  | ellipse
  | vector
  | star
  | line
  | regularPolygon
  | booleanOperation
  | slice
  | other
  deriving DecidableEq

instance : Named Kind where
  all := [.document, .canvas, .frame, .group, .section, .component, .componentSet,
    .componentInstance, .text, .rectangle, .ellipse, .vector, .star, .line, .regularPolygon,
    .booleanOperation, .slice, .other]
  name
    | .document => "DOCUMENT"
    | .canvas => "CANVAS"
    | .frame => "FRAME"
    | .group => "GROUP"
    | .section => "SECTION"
    | .component => "COMPONENT"
    | .componentSet => "COMPONENT_SET"
    | .componentInstance => "INSTANCE"
    | .text => "TEXT"
    | .rectangle => "RECTANGLE"
    | .ellipse => "ELLIPSE"
    | .vector => "VECTOR"
    | .star => "STAR"
    | .line => "LINE"
    | .regularPolygon => "REGULAR_POLYGON"
    | .booleanOperation => "BOOLEAN_OPERATION"
    | .slice => "SLICE"
    | .other => "OTHER"
  complete a := by cases a <;> decide
  distinct := by decide

namespace Kind

/-- Shapes drawn from paths. -/
def isVector : Kind → Bool
  | .vector | .star | .line | .ellipse | .regularPolygon | .booleanOperation => true
  | _ => false

/-- Shapes that hold other shapes. -/
def isContainer : Kind → Bool
  | .frame | .group | .section | .component | .componentSet | .componentInstance => true
  | _ => false

end Kind

structure BoundingBox where
  x : Binary64
  y : Binary64
  width : Binary64
  height : Binary64
  deriving DecidableEq

/-- A colour with channels on the unit interval. -/
structure UnitColor where
  red : Binary64
  green : Binary64
  blue : Binary64
  alpha : Binary64
  deriving DecidableEq

structure ColorStop where
  position : Binary64
  color : UnitColor
  deriving DecidableEq

/-- How a paint covers its area. -/
inductive PaintKind where
  | solid
  | gradientLinear
  | gradientRadial
  | gradientAngular
  | gradientDiamond
  | image
  | other
  deriving DecidableEq

instance : Named PaintKind where
  all := [.solid, .gradientLinear, .gradientRadial, .gradientAngular, .gradientDiamond, .image,
    .other]
  name
    | .solid => "SOLID"
    | .gradientLinear => "GRADIENT_LINEAR"
    | .gradientRadial => "GRADIENT_RADIAL"
    | .gradientAngular => "GRADIENT_ANGULAR"
    | .gradientDiamond => "GRADIENT_DIAMOND"
    | .image => "IMAGE"
    | .other => "OTHER"
  complete a := by cases a <;> decide
  distinct := by decide

/-- The paint of an area or of an outline. -/
structure Paint where
  kind : PaintKind
  visible : Bool
  opacity : Option Binary64
  color : Option UnitColor
  gradientStops : List ColorStop
  imageRef : Option String
  deriving DecidableEq

def Paint.solid (color : UnitColor) : Paint := ⟨.solid, true, none, some color, [], none⟩

inductive EffectKind where
  | dropShadow
  | innerShadow
  | layerBlur
  | backgroundBlur
  | other
  deriving DecidableEq

instance : Named EffectKind where
  all := [.dropShadow, .innerShadow, .layerBlur, .backgroundBlur, .other]
  name
    | .dropShadow => "DROP_SHADOW"
    | .innerShadow => "INNER_SHADOW"
    | .layerBlur => "LAYER_BLUR"
    | .backgroundBlur => "BACKGROUND_BLUR"
    | .other => "OTHER"
  complete a := by cases a <;> decide
  distinct := by decide

structure Offset where
  x : Binary64
  y : Binary64
  deriving DecidableEq

structure Effect where
  kind : EffectKind
  visible : Bool
  color : Option UnitColor
  offset : Option Offset
  radius : Binary64
  spread : Option Binary64
  deriving DecidableEq

/-- Along which axis children are laid out. -/
inductive LayoutMode where
  | none
  | horizontal
  | vertical
  | other
  deriving DecidableEq

instance : Named LayoutMode where
  all := [.none, .horizontal, .vertical, .other]
  name
    | .none => "NONE"
    | .horizontal => "HORIZONTAL"
    | .vertical => "VERTICAL"
    | .other => "OTHER"
  complete a := by cases a <;> decide
  distinct := by decide

/-- Where children stand along or across an axis. -/
inductive AxisAlign where
  | min
  | center
  | max
  | spaceBetween
  | baseline
  | other
  deriving DecidableEq

instance : Named AxisAlign where
  all := [.min, .center, .max, .spaceBetween, .baseline, .other]
  name
    | .min => "MIN"
    | .center => "CENTER"
    | .max => "MAX"
    | .spaceBetween => "SPACE_BETWEEN"
    | .baseline => "BASELINE"
    | .other => "OTHER"
  complete a := by cases a <;> decide
  distinct := by decide

inductive LayoutWrap where
  | noWrap
  | wrap
  | other
  deriving DecidableEq

instance : Named LayoutWrap where
  all := [.noWrap, .wrap, .other]
  name
    | .noWrap => "NO_WRAP"
    | .wrap => "WRAP"
    | .other => "OTHER"
  complete a := by cases a <;> decide
  distinct := by decide

/-- Whether an extent is given, hugs the content or fills what there is. -/
inductive SizingMode where
  | fixed
  | hug
  | fill
  | other
  deriving DecidableEq

instance : Named SizingMode where
  all := [.fixed, .hug, .fill, .other]
  name
    | .fixed => "FIXED"
    | .hug => "HUG"
    | .fill => "FILL"
    | .other => "OTHER"
  complete a := by cases a <;> decide
  distinct := by decide

inductive HorizontalAlign where
  | left
  | center
  | right
  | justified
  | other
  deriving DecidableEq

instance : Named HorizontalAlign where
  all := [.left, .center, .right, .justified, .other]
  name
    | .left => "LEFT"
    | .center => "CENTER"
    | .right => "RIGHT"
    | .justified => "JUSTIFIED"
    | .other => "OTHER"
  complete a := by cases a <;> decide
  distinct := by decide

inductive TextCase where
  | asTyped
  | upper
  | lower
  | title
  | other
  deriving DecidableEq

instance : Named TextCase where
  all := [.asTyped, .upper, .lower, .title, .other]
  name
    | .asTyped => "ORIGINAL"
    | .upper => "UPPER"
    | .lower => "LOWER"
    | .title => "TITLE"
    | .other => "OTHER"
  complete a := by cases a <;> decide
  distinct := by decide

inductive Decoration where
  | none
  | underline
  | strikethrough
  | other
  deriving DecidableEq

instance : Named Decoration where
  all := [.none, .underline, .strikethrough, .other]
  name
    | .none => "NONE"
    | .underline => "UNDERLINE"
    | .strikethrough => "STRIKETHROUGH"
    | .other => "OTHER"
  complete a := by cases a <;> decide
  distinct := by decide

/-- The typography of a text, as far as it is given. -/
structure TypeStyle where
  fontFamily : Option String
  fontWeight : Option Binary64
  fontSize : Option Binary64
  lineHeightPx : Option Binary64
  letterSpacing : Option Binary64
  textAlignHorizontal : Option HorizontalAlign
  textCase : Option TextCase
  textDecoration : Option Decoration
  italic : Option Bool
  deriving DecidableEq

/-- Radii of the four corners, clockwise from the top left. -/
structure RectangleRadii where
  topLeft : Binary64
  topRight : Binary64
  bottomRight : Binary64
  bottomLeft : Binary64
  deriving DecidableEq

/-- Everything a shape says about itself, apart from the shapes inside it. -/
structure Shape where
  id : String
  name : String
  kind : Kind
  visible : Bool
  absoluteBoundingBox : Option BoundingBox
  fills : List Paint
  strokes : List Paint
  strokeWeight : Option Binary64
  strokeDashes : List Binary64
  effects : List Effect
  opacity : Option Binary64
  cornerRadius : Option Binary64
  rectangleCornerRadii : Option RectangleRadii
  clipsContent : Option Bool
  layoutMode : Option LayoutMode
  primaryAxisAlignItems : Option AxisAlign
  counterAxisAlignItems : Option AxisAlign
  layoutWrap : Option LayoutWrap
  paddingTop : Option Binary64
  paddingRight : Option Binary64
  paddingBottom : Option Binary64
  paddingLeft : Option Binary64
  itemSpacing : Option Binary64
  layoutSizingHorizontal : Option SizingMode
  layoutSizingVertical : Option SizingMode
  minWidth : Option Binary64
  maxWidth : Option Binary64
  minHeight : Option Binary64
  maxHeight : Option Binary64
  characters : Option String
  style : Option TypeStyle
  componentId : Option String
  deriving DecidableEq

/-- Whether a visible paint of a shape is an image. -/
def Shape.hasImageFill (shape : Shape) : Bool :=
  shape.fills.any fun paint => paint.visible && paint.kind == .image

abbrev Node := Tree Shape

structure ComponentMeta where
  key : String
  name : String
  description : String
  deriving DecidableEq

structure StyleMeta where
  key : String
  name : String
  styleType : String
  description : String
  deriving DecidableEq

/-- A requested subtree with the shared components and styles it refers to. -/
structure Entry where
  document : Node
  components : OrderedMap String ComponentMeta
  styles : OrderedMap String StyleMeta
  deriving DecidableEq

/-- Requested subtrees of a file, by id. An id that the file does not have has no entry. -/
structure File where
  name : String
  lastModified : String
  thumbnailUrl : Option String
  version : Option String
  nodes : OrderedMap String (Option Entry)
  deriving DecidableEq

/-- The entry of an id, if the file has one. -/
def File.node? (file : File) (id : String) : Option Entry := (file.nodes.get? id).join

/-- Addresses of exported images, by id, or the reason why there are none. -/
structure Images where
  err : Option String
  images : OrderedMap String (Option String)
  deriving DecidableEq

end Handoff.Document
