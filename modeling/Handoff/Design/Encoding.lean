import Handoff.Design.Node
import Handoff.Json.Printer

/-!
Designs as JSON. Every field is written under a fixed name in a fixed order; lists and optional
values that are empty are left out of a layer.
-/
namespace Handoff

/-- The JSON form of a value is its name. -/
def Named.toJson {α : Type} [Named α] (a : α) : Json := .text (Named.name a)

/-- A member that is left out when there is no value. -/
def Json.optionalMember {α : Type} (name : String) (encode : α → Json) :
    Option α → List (String × Json)
  | some a => [(name, encode a)]
  | none => []

/-- A member that is left out when the list is empty. -/
def Json.listMember {α : Type} (name : String) (encode : α → Json) (values : List α) :
    List (String × Json) :=
  if values.isEmpty then [] else [(name, .array (values.map encode))]

def Json.nullable {α : Type} (encode : α → Json) : Option α → Json
  | some a => encode a
  | none => .null

def Json.ofMap {α : Type} (encode : α → Json) (map : OrderedMap String α) : Json :=
  .record (map.entries.map fun (key, value) => (key, encode value))

def Color.toJson (color : Color) : Json :=
  .record [("r", .integer color.red.toNat), ("g", .integer color.green.toNat),
    ("b", .integer color.blue.toNat), ("a", .real color.alpha), ("hex", .text color.hex)]

def GradientStop.toJson (stop : GradientStop) : Json :=
  .record [("position", .real stop.position), ("color", stop.color.toJson)]

def Fill.toJson : Fill → Json
  | .solid color => .record [("type", .text "solid"), ("color", color.toJson)]
  | .linear stops =>
    .record [("type", .text "gradient-linear"), ("stops", .array (stops.map GradientStop.toJson))]
  | .radial stops =>
    .record [("type", .text "gradient-radial"), ("stops", .array (stops.map GradientStop.toJson))]
  | .image reference =>
    .record (("type", .text "image") :: Json.optionalMember "imageRef" .text reference)

def Border.toJson (border : Border) : Json :=
  .record [("color", border.color.toJson), ("width", .real border.width),
    ("style", Named.toJson border.style)]

def Shadow.toJson (shadow : Shadow) : Json :=
  .record [("kind", Named.toJson shadow.kind), ("color", shadow.color.toJson),
    ("offsetX", .real shadow.offsetX), ("offsetY", .real shadow.offsetY),
    ("blur", .real shadow.blur), ("spread", .real shadow.spread)]

def CornerRadii.toJson (radii : CornerRadii) : Json :=
  .record [("topLeft", .real radii.topLeft), ("topRight", .real radii.topRight),
    ("bottomRight", .real radii.bottomRight), ("bottomLeft", .real radii.bottomLeft)]

def Padding.toJson (padding : Padding) : Json :=
  .record [("top", .real padding.top), ("right", .real padding.right),
    ("bottom", .real padding.bottom), ("left", .real padding.left)]

def Layout.toJson (layout : Layout) : Json :=
  .record [("direction", Named.toJson layout.direction),
    ("alignItems", Named.toJson layout.alignItems),
    ("justifyContent", Named.toJson layout.justifyContent), ("gap", .real layout.gap),
    ("padding", layout.padding.toJson), ("wrap", .bool layout.wrap)]

def Size.toJson : Size → Json
  | .fixed pixels => .record [("fixed", .real pixels)]
  | .auto => .text "auto"
  | .fill => .text "fill"

def Dimensions.toJson (dimensions : Dimensions) : Json :=
  .record ([("width", dimensions.width.toJson), ("height", dimensions.height.toJson)]
    ++ Json.optionalMember "minWidth" .real dimensions.minWidth
    ++ Json.optionalMember "maxWidth" .real dimensions.maxWidth
    ++ Json.optionalMember "minHeight" .real dimensions.minHeight
    ++ Json.optionalMember "maxHeight" .real dimensions.maxHeight)

def TextStyle.toJson (style : TextStyle) : Json :=
  .record [("fontFamily", .text style.fontFamily), ("fontWeight", .integer style.fontWeight.toNat),
    ("fontSize", .real style.fontSize), ("lineHeight", .real style.lineHeight),
    ("letterSpacing", .real style.letterSpacing), ("textAlign", Named.toJson style.textAlign),
    ("textTransform", Named.toJson style.textTransform),
    ("textDecoration", Named.toJson style.textDecoration), ("italic", .bool style.italic)]

/-- The members of a layer, without the layers inside it. -/
def Layer.members (layer : Layer) : List (String × Json) :=
  [("id", .text layer.id), ("name", .text layer.name), ("componentType", Named.toJson layer.role),
    ("visible", .bool layer.visible)]
  ++ Json.listMember "fills" Fill.toJson layer.fills
  ++ Json.listMember "borders" Border.toJson layer.borders
  ++ Json.listMember "shadows" Shadow.toJson layer.shadows
  ++ [("radii", layer.radii.toJson), ("opacity", .real layer.opacity),
    ("clipContent", .bool layer.clipContent), ("layout", layer.layout.toJson),
    ("dimensions", layer.dimensions.toJson)]
  ++ Json.optionalMember "textContent" .text layer.textContent
  ++ Json.optionalMember "textStyle" TextStyle.toJson layer.textStyle
  ++ Json.optionalMember "assetUrl" .text layer.assetUrl
  ++ [("isInteractive", .bool layer.isInteractive)]
  ++ Json.optionalMember "interactivityHint" Named.toJson layer.interaction

namespace Node

mutual

def toJson : Node → Json
  | .node layer children =>
    match children with
    | [] => .record layer.members
    | child :: rest =>
      .record (layer.members ++ [("children", .array (toJson child :: allToJson rest))])

def allToJson : List Node → List Json
  | [] => []
  | child :: rest => toJson child :: allToJson rest

end

end Node

def SourceMeta.toJson (source : SourceMeta) : Json :=
  .record [("fileName", .text source.fileName), ("lastModified", .text source.lastModified),
    ("rootNodeId", .text source.rootId)]

namespace Design

def toJson (design : Design) : Json :=
  .record [("meta", design.source.toJson), ("root", design.root.toJson),
    ("components", Json.ofMap .text design.components)]

def write (design : Design) : String := design.toJson.pretty

end Design

end Handoff
