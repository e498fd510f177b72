import Handoff.Document.Basic
import Handoff.Design.Decoding

/-!
Reading documents from JSON. Lists, names and visibility have defaults; most other values may be
null.
-/
namespace Handoff.Document

open Json

def BoundingBox.decode : Decoder BoundingBox := fun depth json => do
  let record ← Record.open?
    ["x", "y", "width", "height"] depth json
  let x ← record.required "x" .binary64
  let y ← record.required "y" .binary64
  let width ← record.required "width" .binary64
  let height ← record.required "height" .binary64
  return { x, y, width, height }

def UnitColor.decode : Decoder UnitColor := fun depth json => do
  let record ← Record.open?
    ["r", "g", "b", "a"] depth json
  let red ← record.required "r" .binary64
  let green ← record.required "g" .binary64
  let blue ← record.required "b" .binary64
  let alpha ← record.defaulted "a" 1 .binary64
  return { red, green, blue, alpha }

def ColorStop.decode : Decoder ColorStop := fun depth json => do
  let record ← Record.open?
    ["position", "color"] depth json
  let position ← record.required "position" .binary64
  let color ← record.required "color" UnitColor.decode
  return { position, color }

def Paint.decode : Decoder Paint := fun depth json => do
  let record ← Record.open?
    ["type", "visible", "opacity", "color", "gradientStops", "imageRef"] depth json
  let kind ← record.required "type" (Named.decodeOr .other)
  let visible ← record.defaulted "visible" true .bool
  let opacity ← record.nullable "opacity" .binary64
  let color ← record.nullable "color" UnitColor.decode
  let gradientStops ← record.defaulted "gradientStops" [] (.list ColorStop.decode)
  let imageRef ← record.nullable "imageRef" .text
  return { kind, visible, opacity, color, gradientStops, imageRef }

def Offset.decode : Decoder Offset := fun depth json => do
  let record ← Record.open?
    ["x", "y"] depth json
  let x ← record.required "x" .binary64
  let y ← record.required "y" .binary64
  return { x, y }

def Effect.decode : Decoder Effect := fun depth json => do
  let record ← Record.open?
    ["type", "visible", "color", "offset", "radius", "spread"] depth json
  let kind ← record.required "type" (Named.decodeOr .other)
  let visible ← record.defaulted "visible" true .bool
  let color ← record.nullable "color" UnitColor.decode
  let offset ← record.nullable "offset" Offset.decode
  let radius ← record.defaulted "radius" 0 .binary64
  let spread ← record.nullable "spread" .binary64
  return { kind, visible, color, offset, radius, spread }

def TypeStyle.decode : Decoder TypeStyle := fun depth json => do
  let record ← Record.open?
    ["fontFamily", "fontWeight", "fontSize", "lineHeightPx", "letterSpacing", "textAlignHorizontal",
      "textCase", "textDecoration", "italic"] depth json
  let fontFamily ← record.nullable "fontFamily" .text
  let fontWeight ← record.nullable "fontWeight" .binary64
  let fontSize ← record.nullable "fontSize" .binary64
  let lineHeightPx ← record.nullable "lineHeightPx" .binary64
  let letterSpacing ← record.nullable "letterSpacing" .binary64
  let textAlignHorizontal ← record.nullable "textAlignHorizontal" (Named.decodeOr .other)
  let textCase ← record.nullable "textCase" (Named.decodeOr .other)
  let textDecoration ← record.nullable "textDecoration" (Named.decodeOr .other)
  let italic ← record.nullable "italic" .bool
  return { fontFamily, fontWeight, fontSize, lineHeightPx, letterSpacing, textAlignHorizontal,
           textCase, textDecoration, italic }

/-- Exactly four radii in an array. -/
def RectangleRadii.decode : Decoder RectangleRadii := fun depth json => do
  match ← Decoder.list Decoder.binary64 depth json with
  | [topLeft, topRight, bottomRight, bottomLeft] =>
    return { topLeft, topRight, bottomRight, bottomLeft }
  | _ => none

/-- The names of a shape's fields, the shapes inside it among them. -/
def Shape.fieldNames : List String :=
  ["id", "name", "type", "visible", "children", "absoluteBoundingBox", "fills", "strokes",
    "strokeWeight", "strokeDashes", "effects", "opacity", "cornerRadius", "rectangleCornerRadii",
    "clipsContent", "layoutMode", "primaryAxisAlignItems", "counterAxisAlignItems", "layoutWrap",
    "paddingTop", "paddingRight", "paddingBottom", "paddingLeft", "itemSpacing",
    "layoutSizingHorizontal", "layoutSizingVertical", "minWidth", "maxWidth", "minHeight",
    "maxHeight", "characters", "style", "componentId"]

def Shape.ofRecord (record : Record) : Option Shape := do
  let id ← record.required "id" .text
  let name ← record.defaulted "name" "" .text
  let kind ← record.required "type" (Named.decodeOr .other)
  let visible ← record.defaulted "visible" true .bool
  let absoluteBoundingBox ← record.nullable "absoluteBoundingBox" BoundingBox.decode
  let fills ← record.defaulted "fills" [] (.list Paint.decode)
  let strokes ← record.defaulted "strokes" [] (.list Paint.decode)
  let strokeWeight ← record.nullable "strokeWeight" .binary64
  let strokeDashes ← record.defaulted "strokeDashes" [] (.list .binary64)
  let effects ← record.defaulted "effects" [] (.list Effect.decode)
  let opacity ← record.nullable "opacity" .binary64
  let cornerRadius ← record.nullable "cornerRadius" .binary64
  let rectangleCornerRadii ← record.nullable "rectangleCornerRadii" RectangleRadii.decode
  let clipsContent ← record.nullable "clipsContent" .bool
  let layoutMode ← record.nullable "layoutMode" (Named.decodeOr .other)
  let primaryAxisAlignItems ← record.nullable "primaryAxisAlignItems" (Named.decodeOr .other)
  let counterAxisAlignItems ← record.nullable "counterAxisAlignItems" (Named.decodeOr .other)
  let layoutWrap ← record.nullable "layoutWrap" (Named.decodeOr .other)
  let paddingTop ← record.nullable "paddingTop" .binary64
  let paddingRight ← record.nullable "paddingRight" .binary64
  let paddingBottom ← record.nullable "paddingBottom" .binary64
  let paddingLeft ← record.nullable "paddingLeft" .binary64
  let itemSpacing ← record.nullable "itemSpacing" .binary64
  let layoutSizingHorizontal ← record.nullable "layoutSizingHorizontal" (Named.decodeOr .other)
  let layoutSizingVertical ← record.nullable "layoutSizingVertical" (Named.decodeOr .other)
  let minWidth ← record.nullable "minWidth" .binary64
  let maxWidth ← record.nullable "maxWidth" .binary64
  let minHeight ← record.nullable "minHeight" .binary64
  let maxHeight ← record.nullable "maxHeight" .binary64
  let characters ← record.nullable "characters" .text
  let style ← record.nullable "style" TypeStyle.decode
  let componentId ← record.nullable "componentId" .text
  return { id, name, kind, visible, absoluteBoundingBox, fills, strokes, strokeWeight, strokeDashes,
           effects, opacity, cornerRadius, rectangleCornerRadii, clipsContent, layoutMode,
           primaryAxisAlignItems, counterAxisAlignItems, layoutWrap, paddingTop, paddingRight,
           paddingBottom, paddingLeft, itemSpacing, layoutSizingHorizontal, layoutSizingVertical,
           minWidth, maxWidth, minHeight, maxHeight, characters, style, componentId }

/-- A shape with shapes inside it, nested at most as often as the first argument says. -/
def Node.decodeNested : Nat → Decoder Node
  | 0 => fun _ _ => none
  | nesting + 1 => fun depth json => do
    let record ← Record.open? Shape.fieldNames depth json
    let shape ← Shape.ofRecord record
    let children ← record.defaulted "children" [] (.list (Node.decodeNested nesting))
    return .node shape children

/-- Each shape is inside an object, so shapes nest no deeper than the document. -/
def Node.decode : Decoder Node := fun depth => Node.decodeNested depth depth

def ComponentMeta.decode : Decoder ComponentMeta := fun depth json => do
  let record ← Record.open?
    ["key", "name", "description"] depth json
  let key ← record.defaulted "key" "" .text
  let name ← record.required "name" .text
  let description ← record.defaulted "description" "" .text
  return { key, name, description }

def StyleMeta.decode : Decoder StyleMeta := fun depth json => do
  let record ← Record.open?
    ["key", "name", "styleType", "description"] depth json
  let key ← record.defaulted "key" "" .text
  let name ← record.required "name" .text
  let styleType ← record.defaulted "styleType" "" .text
  let description ← record.defaulted "description" "" .text
  return { key, name, styleType, description }

def Entry.decode : Decoder Entry := fun depth json => do
  let record ← Record.open? ["document", "components", "styles"] depth json
  let document ← record.required "document" Node.decode
  let components ← record.defaulted "components" .empty (.map ComponentMeta.decode)
  let styles ← record.defaulted "styles" .empty (.map StyleMeta.decode)
  return { document, components, styles }

def File.decode : Decoder File := fun depth json => do
  let record ← Record.open? ["name", "lastModified", "thumbnailUrl", "version", "nodes"] depth json
  let name ← record.defaulted "name" "" .text
  let lastModified ← record.defaulted "lastModified" "" .text
  let thumbnailUrl ← record.optional "thumbnailUrl" .text
  let version ← record.optional "version" .text
  let nodes ← record.defaulted "nodes" .empty (.map (.nullable Entry.decode))
  return { name, lastModified, thumbnailUrl, version, nodes }

def Images.decode : Decoder Images := fun depth json => do
  let record ← Record.open? ["err", "images"] depth json
  let err ← record.optional "err" .text
  let images ← record.defaulted "images" .empty (.map (.nullable .text))
  return { err, images }

end Handoff.Document
