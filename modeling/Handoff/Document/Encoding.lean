import Handoff.Document.Basic
import Handoff.Design.Encoding

/-!
Documents as JSON. Values that are not given are written as null, except for the two that describe
the file itself.
-/
namespace Handoff.Document

def BoundingBox.toJson (box : BoundingBox) : Json :=
  .record
    [("x", .real box.x), ("y", .real box.y), ("width", .real box.width),
      ("height", .real box.height)]

def UnitColor.toJson (color : UnitColor) : Json :=
  .record
    [("r", .real color.red), ("g", .real color.green), ("b", .real color.blue),
      ("a", .real color.alpha)]

def ColorStop.toJson (stop : ColorStop) : Json :=
  .record
    [("position", .real stop.position), ("color", stop.color.toJson)]

def Paint.toJson (paint : Paint) : Json :=
  .record
    [("type", Named.toJson paint.kind), ("visible", .bool paint.visible),
      ("opacity", .nullable .real paint.opacity), ("color", .nullable UnitColor.toJson paint.color),
      ("gradientStops", .array (paint.gradientStops.map ColorStop.toJson)),
      ("imageRef", .nullable .text paint.imageRef)]

def Offset.toJson (offset : Offset) : Json :=
  .record
    [("x", .real offset.x), ("y", .real offset.y)]

def Effect.toJson (effect : Effect) : Json :=
  .record
    [("type", Named.toJson effect.kind), ("visible", .bool effect.visible),
      ("color", .nullable UnitColor.toJson effect.color),
      ("offset", .nullable Offset.toJson effect.offset), ("radius", .real effect.radius),
      ("spread", .nullable .real effect.spread)]

def TypeStyle.toJson (style : TypeStyle) : Json :=
  .record
    [("fontFamily", .nullable .text style.fontFamily),
      ("fontWeight", .nullable .real style.fontWeight),
      ("fontSize", .nullable .real style.fontSize),
      ("lineHeightPx", .nullable .real style.lineHeightPx),
      ("letterSpacing", .nullable .real style.letterSpacing),
      ("textAlignHorizontal", .nullable Named.toJson style.textAlignHorizontal),
      ("textCase", .nullable Named.toJson style.textCase),
      ("textDecoration", .nullable Named.toJson style.textDecoration),
      ("italic", .nullable .bool style.italic)]

def RectangleRadii.toJson (radii : RectangleRadii) : Json :=
  .array
    [.real radii.topLeft, .real radii.topRight, .real radii.bottomRight, .real radii.bottomLeft]

def Shape.leadingMembers (shape : Shape) : List (String × Json) :=
  [("id", .text shape.id), ("name", .text shape.name), ("type", Named.toJson shape.kind),
    ("visible", .bool shape.visible)]

def Shape.trailingMembers (shape : Shape) : List (String × Json) :=
  [("absoluteBoundingBox", .nullable BoundingBox.toJson shape.absoluteBoundingBox),
    ("fills", .array (shape.fills.map Paint.toJson)),
    ("strokes", .array (shape.strokes.map Paint.toJson)),
    ("strokeWeight", .nullable .real shape.strokeWeight),
    ("strokeDashes", .array (shape.strokeDashes.map .real)),
    ("effects", .array (shape.effects.map Effect.toJson)),
    ("opacity", .nullable .real shape.opacity),
    ("cornerRadius", .nullable .real shape.cornerRadius),
    ("rectangleCornerRadii", .nullable RectangleRadii.toJson shape.rectangleCornerRadii),
    ("clipsContent", .nullable .bool shape.clipsContent),
    ("layoutMode", .nullable Named.toJson shape.layoutMode),
    ("primaryAxisAlignItems", .nullable Named.toJson shape.primaryAxisAlignItems),
    ("counterAxisAlignItems", .nullable Named.toJson shape.counterAxisAlignItems),
    ("layoutWrap", .nullable Named.toJson shape.layoutWrap),
    ("paddingTop", .nullable .real shape.paddingTop),
    ("paddingRight", .nullable .real shape.paddingRight),
    ("paddingBottom", .nullable .real shape.paddingBottom),
    ("paddingLeft", .nullable .real shape.paddingLeft),
    ("itemSpacing", .nullable .real shape.itemSpacing),
    ("layoutSizingHorizontal", .nullable Named.toJson shape.layoutSizingHorizontal),
    ("layoutSizingVertical", .nullable Named.toJson shape.layoutSizingVertical),
    ("minWidth", .nullable .real shape.minWidth), ("maxWidth", .nullable .real shape.maxWidth),
    ("minHeight", .nullable .real shape.minHeight), ("maxHeight", .nullable .real shape.maxHeight),
    ("characters", .nullable .text shape.characters),
    ("style", .nullable TypeStyle.toJson shape.style),
    ("componentId", .nullable .text shape.componentId)]

mutual

def Node.toJson : Node → Json
  | .node shape children =>
    .record (shape.leadingMembers ++ [("children", .array (Node.allToJson children))]
      ++ shape.trailingMembers)

def Node.allToJson : List Node → List Json
  | [] => []
  | child :: rest => Node.toJson child :: Node.allToJson rest

end

def ComponentMeta.toJson (entry : ComponentMeta) : Json :=
  .record
    [("key", .text entry.key), ("name", .text entry.name), ("description", .text entry.description)]

def StyleMeta.toJson (entry : StyleMeta) : Json :=
  .record
    [("key", .text entry.key), ("name", .text entry.name), ("styleType", .text entry.styleType),
      ("description", .text entry.description)]

def Entry.toJson (entry : Entry) : Json :=
  .record [("document", entry.document.toJson),
    ("components", .ofMap ComponentMeta.toJson entry.components),
    ("styles", .ofMap StyleMeta.toJson entry.styles)]

def File.toJson (file : File) : Json :=
  .record ([("name", .text file.name), ("lastModified", .text file.lastModified)]
    ++ Json.optionalMember "thumbnailUrl" .text file.thumbnailUrl
    ++ Json.optionalMember "version" .text file.version
    ++ [("nodes", .ofMap (.nullable Entry.toJson) file.nodes)])

def Images.toJson (images : Images) : Json :=
  .record [("err", .nullable .text images.err),
    ("images", .ofMap (.nullable .text) images.images)]

end Handoff.Document
