import Handoff.Design.Node
import Handoff.Json.Decoder

/-!
Reading designs from JSON. A record that is present has all its fields; what a layer may leave out
gets a value that changes nothing.
-/
namespace Handoff

open Json

def Named.decode {α : Type} [Named α] : Decoder α := fun depth json => do
  let name ← Decoder.caseName depth json
  Named.ofName? name

/-- A value given by its name, any other name standing for `other`. -/
def Named.decodeOr {α : Type} [Named α] (other : α) : Decoder α := fun depth json => do
  let name ← Decoder.caseName depth json
  return (Named.ofName? name).getD other

/-- The hexadecimal form of a colour is read and dropped, since the channels decide it. -/
def Color.decode : Decoder Color := fun depth json => do
  let record ← Record.open? ["r", "g", "b", "a", "hex"] depth json
  let red ← record.required "r" (.natBelow 256)
  let green ← record.required "g" (.natBelow 256)
  let blue ← record.required "b" (.natBelow 256)
  let alpha ← record.required "a" .binary64
  let _ ← record.optional "hex" .text
  return .rgba (.ofNat red) (.ofNat green) (.ofNat blue) alpha

def GradientStop.decode : Decoder GradientStop := fun depth json => do
  let record ← Record.open? ["position", "color"] depth json
  let position ← record.required "position" .binary64
  let color ← record.required "color" Color.decode
  return ⟨position, color⟩

/-- A paint of a named kind, its other fields given as a record of their own. -/
def Fill.decodeKind (kind : String) : Decoder Fill := fun depth json =>
  match kind with
  | "solid" => do
    let record ← Record.open? ["color"] depth json
    let color ← record.required "color" Color.decode
    return .solid color
  | "gradient-linear" => do
    let record ← Record.open? ["stops"] depth json
    let stops ← record.required "stops" (.list GradientStop.decode)
    return .linear stops
  | "gradient-radial" => do
    let record ← Record.open? ["stops"] depth json
    let stops ← record.required "stops" (.list GradientStop.decode)
    return .radial stops
  | "image" => do
    let record ← Record.open? ["imageRef"] depth json
    let reference ← record.optional "imageRef" .text
    return .image reference
  | _ => none

/-- A paint names its kind in a member, or as the first item of an array. All of its members are
read before the kind is known, so each must keep to the rules of a document. -/
def Fill.decode : Decoder Fill := fun depth json =>
  if isStrict depth json then
    match json with
    | .object members =>
      match members.filter (·.1 = some "type") with
      | [(_, .string (some kind))] =>
        Fill.decodeKind kind depth (.object (members.filter (·.1 ≠ some "type")))
      | _ => none
    | .array (.string (some kind) :: items) => Fill.decodeKind kind depth (.array items)
    | _ => none
  else none

def Border.decode : Decoder Border := fun depth json => do
  let record ← Record.open? ["color", "width", "style"] depth json
  let color ← record.required "color" Color.decode
  let width ← record.required "width" .binary64
  let style ← record.required "style" Named.decode
  return ⟨color, width, style⟩

def Shadow.decode : Decoder Shadow := fun depth json => do
  let record ← Record.open? ["kind", "color", "offsetX", "offsetY", "blur", "spread"] depth json
  let kind ← record.required "kind" Named.decode
  let color ← record.required "color" Color.decode
  let offsetX ← record.required "offsetX" .binary64
  let offsetY ← record.required "offsetY" .binary64
  let blur ← record.required "blur" .binary64
  let spread ← record.required "spread" .binary64
  return ⟨kind, color, offsetX, offsetY, blur, spread⟩

def CornerRadii.decode : Decoder CornerRadii := fun depth json => do
  let record ← Record.open? ["topLeft", "topRight", "bottomRight", "bottomLeft"] depth json
  let topLeft ← record.required "topLeft" .binary64
  let topRight ← record.required "topRight" .binary64
  let bottomRight ← record.required "bottomRight" .binary64
  let bottomLeft ← record.required "bottomLeft" .binary64
  return ⟨topLeft, topRight, bottomRight, bottomLeft⟩

def Padding.decode : Decoder Padding := fun depth json => do
  let record ← Record.open? ["top", "right", "bottom", "left"] depth json
  let top ← record.required "top" .binary64
  let right ← record.required "right" .binary64
  let bottom ← record.required "bottom" .binary64
  let left ← record.required "left" .binary64
  return ⟨top, right, bottom, left⟩

def Layout.decode : Decoder Layout := fun depth json => do
  let record ← Record.open? ["direction", "alignItems", "justifyContent", "gap", "padding", "wrap"]
    depth json
  let direction ← record.required "direction" Named.decode
  let alignItems ← record.required "alignItems" Named.decode
  let justifyContent ← record.required "justifyContent" Named.decode
  let gap ← record.required "gap" .binary64
  let padding ← record.required "padding" Padding.decode
  let wrap ← record.required "wrap" .bool
  return ⟨direction, alignItems, justifyContent, gap, padding, wrap⟩

/-- An extent is the name of a case, or an object whose only member gives the pixels. -/
def Size.decode : Decoder Size
  | depth + 1, .object [(some "fixed", pixels)] => (Decoder.binary64 depth pixels).map .fixed
  | depth, json => do
    match ← Decoder.caseName depth json with
    | "auto" => some .auto
    | "fill" => some .fill
    | _ => none

def Dimensions.decode : Decoder Dimensions := fun depth json => do
  let record ← Record.open? ["width", "height", "minWidth", "maxWidth", "minHeight", "maxHeight"]
    depth json
  let width ← record.required "width" Size.decode
  let height ← record.required "height" Size.decode
  let minWidth ← record.optional "minWidth" .binary64
  let maxWidth ← record.optional "maxWidth" .binary64
  let minHeight ← record.optional "minHeight" .binary64
  let maxHeight ← record.optional "maxHeight" .binary64
  return ⟨width, height, minWidth, maxWidth, minHeight, maxHeight⟩

def TextStyle.decode : Decoder TextStyle := fun depth json => do
  let record ← Record.open? ["fontFamily", "fontWeight", "fontSize", "lineHeight", "letterSpacing",
    "textAlign", "textTransform", "textDecoration", "italic"] depth json
  let fontFamily ← record.required "fontFamily" .text
  let fontWeight ← record.required "fontWeight" (.natBelow UInt16.size)
  let fontSize ← record.required "fontSize" .binary64
  let lineHeight ← record.required "lineHeight" .binary64
  let letterSpacing ← record.required "letterSpacing" .binary64
  let textAlign ← record.defaulted "textAlign" .left Named.decode
  let textTransform ← record.defaulted "textTransform" .none Named.decode
  let textDecoration ← record.defaulted "textDecoration" .none Named.decode
  let italic ← record.defaulted "italic" false .bool
  return ⟨fontFamily, .ofNat fontWeight, fontSize, lineHeight, letterSpacing, textAlign,
    textTransform, textDecoration, italic⟩

/-- The names of a layer's fields, the layers inside it last. -/
def Layer.fieldNames : List String :=
  ["id", "name", "componentType", "visible", "fills", "borders", "shadows", "radii", "opacity",
    "clipContent", "layout", "dimensions", "textContent", "textStyle", "assetUrl", "isInteractive",
    "interactivityHint", "children"]

def Layer.ofRecord (record : Record) : Option Layer := do
  let id ← record.required "id" .text
  let name ← record.required "name" .text
  let role ← record.required "componentType" Named.decode
  let visible ← record.required "visible" .bool
  let fills ← record.defaulted "fills" [] (.list Fill.decode)
  let borders ← record.defaulted "borders" [] (.list Border.decode)
  let shadows ← record.defaulted "shadows" [] (.list Shadow.decode)
  let radii ← record.defaulted "radii" (.uniform 0) CornerRadii.decode
  let opacity ← record.required "opacity" .binary64
  let clipContent ← record.defaulted "clipContent" false .bool
  let layout ← record.defaulted "layout" .free Layout.decode
  let dimensions ← record.defaulted "dimensions" .zero Dimensions.decode
  let textContent ← record.optional "textContent" .text
  let textStyle ← record.optional "textStyle" TextStyle.decode
  let assetUrl ← record.optional "assetUrl" .text
  let isInteractive ← record.defaulted "isInteractive" false .bool
  let interaction ← record.optional "interactivityHint" Named.decode
  return { id, name, role, visible, fills, borders, shadows, radii, opacity, clipContent, layout,
           dimensions, textContent, textStyle, assetUrl, isInteractive, interaction }

namespace Node

/-- A layer with layers inside it, nested at most as often as the first argument says. -/
def decodeNested : Nat → Decoder Node
  | 0 => fun _ _ => none
  | nesting + 1 => fun depth json => do
    let record ← Record.open? Layer.fieldNames depth json
    let layer ← Layer.ofRecord record
    let children ← record.defaulted "children" [] (.list (decodeNested nesting))
    return .node layer children

/-- Each layer is inside an object, so layers nest no deeper than the document. -/
def decode : Decoder Node := fun depth => decodeNested depth depth

end Node

def SourceMeta.decode : Decoder SourceMeta := fun depth json => do
  let record ← Record.open? ["fileName", "lastModified", "rootNodeId"] depth json
  let fileName ← record.required "fileName" .text
  let lastModified ← record.required "lastModified" .text
  let rootId ← record.required "rootNodeId" .text
  return ⟨fileName, lastModified, rootId⟩

namespace Design

def decode : Decoder Design := fun depth json => do
  let record ← Record.open? ["meta", "root", "components"] depth json
  let source ← record.required "meta" SourceMeta.decode
  let root ← record.required "root" Node.decode
  let components ← record.defaulted "components" .empty (.map .text)
  return ⟨source, root, components⟩

def read (s : String) : Option Design := decodeText decode s

end Design

end Handoff
