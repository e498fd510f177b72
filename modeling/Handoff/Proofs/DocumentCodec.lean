import Handoff.Document.Decoding
import Handoff.Document.Encoding
import Handoff.Proofs.LayoutCodec
import Handoff.Proofs.RepeatedDecoding

/-! Documents are written without loss. Lists that a shape left out are written empty, one
level inside the shape; shapes stand at even depths, and the deepest one is a level above
the limit, so there is always room for them. -/

namespace Handoff.Document
open Json

section Records

variable {depth : Nat}

theorem BoundingBox.rereads : Rereads toJson decode depth := by
  refine Rereads.record (fun _ => rfl) (fun _ => rfl) (fun _ => List.Sublist.refl _) (by decide) ?_
  intro record box all _ distinct inside read
  simp only [Option.bind_eq_bind, Option.bind_eq_some_iff] at read
  obtain ⟨x, ofX, y, ofY, width, ofWidth, height, ofHeight, made⟩ := read
  obtain rfl := Option.some.inj made
  have x := rereads_real.required distinct "x" (inside.mpr (by simp)) ofX
  have y := rereads_real.required distinct "y" (inside.mpr (by simp)) ofY
  have width := rereads_real.required distinct "width" (inside.mpr (by simp)) ofWidth
  have height := rereads_real.required distinct "height" (inside.mpr (by simp)) ofHeight
  simp only [x, y, width, height, Option.bind_eq_bind, Option.bind_some, Option.pure_def]

theorem UnitColor.rereads : Rereads toJson decode depth := by
  refine Rereads.record (fun _ => rfl) (fun _ => rfl) (fun _ => List.Sublist.refl _) (by decide) ?_
  intro record color all _ distinct inside read
  simp only [Option.bind_eq_bind, Option.bind_eq_some_iff] at read
  obtain ⟨red, ofRed, green, ofGreen, blue, ofBlue, alpha, ofAlpha, made⟩ := read
  obtain rfl := Option.some.inj made
  have red := rereads_real.required distinct "r" (inside.mpr (by simp)) ofRed
  have green := rereads_real.required distinct "g" (inside.mpr (by simp)) ofGreen
  have blue := rereads_real.required distinct "b" (inside.mpr (by simp)) ofBlue
  have one : (1 : Binary64).isFinite = true := Binary64.isFinite_of_mem_unit (by decide +kernel)
  have alpha := rereads_real.defaulted distinct "a" (inside.mpr (by simp)) (readsBack_real one) ofAlpha
  simp only [red, green, blue, alpha, Option.bind_eq_bind, Option.bind_some, Option.pure_def]

theorem ColorStop.rereads : Rereads toJson decode depth := by
  refine Rereads.record (fun _ => rfl) (fun _ => rfl) (fun _ => List.Sublist.refl _) (by decide) ?_
  intro record stop all _ distinct inside read
  simp only [Option.bind_eq_bind, Option.bind_eq_some_iff] at read
  obtain ⟨position, ofPosition, color, ofColor, made⟩ := read
  obtain rfl := Option.some.inj made
  have position := rereads_real.required distinct "position" (inside.mpr (by simp)) ofPosition
  have color := UnitColor.rereads.required distinct "color" (inside.mpr (by simp)) ofColor
  simp only [position, color, Option.bind_eq_bind, Option.bind_some, Option.pure_def]

theorem UnitColor.decode_null : UnitColor.decode depth .null = none := by cases depth <;> rfl

/-- The stops of a paint are a list, which takes a level inside the paint even when it is empty. -/
theorem Paint.rereads (room : depth ≠ 1) : Rereads toJson decode depth := by
  refine Rereads.record (fun _ => rfl) (fun _ => rfl) (fun _ => List.Sublist.refl _) (by decide) ?_
  intro record paint all deep distinct inside read
  simp only [Option.bind_eq_bind, Option.bind_eq_some_iff] at read
  obtain ⟨kind, ofKind, visible, ofVisible, opacity, ofOpacity, color, ofColor, stops, ofStops, imageRef, ofImage,
    made⟩ := read
  obtain rfl := Option.some.inj made
  have kind := (rereads_named _).required distinct "type" (inside.mpr (by simp)) ofKind
  have visible := rereads_bool.defaulted distinct "visible" (inside.mpr (by simp)) (readsBack_bool true) ofVisible
  have opacity := rereads_real.nullable distinct "opacity" (inside.mpr (by simp)) rfl ofOpacity
  have color := UnitColor.rereads.nullable distinct "color" (inside.mpr (by simp)) UnitColor.decode_null ofColor
  have stops := (Rereads.list fun _ _ => ColorStop.rereads).defaulted distinct "gradientStops"
    (inside.mpr (by simp)) (readsBack_nil (by omega)) ofStops
  have imageRef := rereads_text.nullable distinct "imageRef" (inside.mpr (by simp)) rfl ofImage
  simp only [kind, visible, opacity, color, stops, imageRef, Option.bind_eq_bind, Option.bind_some, Option.pure_def]

theorem Offset.rereads : Rereads toJson decode depth := by
  refine Rereads.record (fun _ => rfl) (fun _ => rfl) (fun _ => List.Sublist.refl _) (by decide) ?_
  intro record offset all _ distinct inside read
  simp only [Option.bind_eq_bind, Option.bind_eq_some_iff] at read
  obtain ⟨x, ofX, y, ofY, made⟩ := read
  obtain rfl := Option.some.inj made
  have x := rereads_real.required distinct "x" (inside.mpr (by simp)) ofX
  have y := rereads_real.required distinct "y" (inside.mpr (by simp)) ofY
  simp only [x, y, Option.bind_eq_bind, Option.bind_some, Option.pure_def]

theorem Offset.decode_null : Offset.decode depth .null = none := by cases depth <;> rfl

theorem Effect.rereads : Rereads toJson decode depth := by
  refine Rereads.record (fun _ => rfl) (fun _ => rfl) (fun _ => List.Sublist.refl _) (by decide) ?_
  intro record effect all _ distinct inside read
  simp only [Option.bind_eq_bind, Option.bind_eq_some_iff] at read
  obtain ⟨kind, ofKind, visible, ofVisible, color, ofColor, offset, ofOffset, radius, ofRadius, spread, ofSpread,
    made⟩ := read
  obtain rfl := Option.some.inj made
  have kind := (rereads_named _).required distinct "type" (inside.mpr (by simp)) ofKind
  have visible := rereads_bool.defaulted distinct "visible" (inside.mpr (by simp)) (readsBack_bool true) ofVisible
  have color := UnitColor.rereads.nullable distinct "color" (inside.mpr (by simp)) UnitColor.decode_null ofColor
  have offset := Offset.rereads.nullable distinct "offset" (inside.mpr (by simp)) Offset.decode_null ofOffset
  have zero : (0 : Binary64).isFinite = true := Binary64.isFinite_of_mem_unit (by decide +kernel)
  have radius := rereads_real.defaulted distinct "radius" (inside.mpr (by simp)) (readsBack_real zero) ofRadius
  have spread := rereads_real.nullable distinct "spread" (inside.mpr (by simp)) rfl ofSpread
  simp only [kind, visible, color, offset, radius, spread, Option.bind_eq_bind, Option.bind_some, Option.pure_def]

theorem decodeOr_null {α : Type} [Named α] (other : α) : Named.decodeOr other depth .null = none := by
  cases depth <;> rfl

theorem TypeStyle.rereads : Rereads toJson decode depth := by
  refine Rereads.record (fun _ => rfl) (fun _ => rfl) (fun _ => List.Sublist.refl _) (by decide) ?_
  intro record style all _ distinct inside read
  simp only [Option.bind_eq_bind, Option.bind_eq_some_iff] at read
  obtain ⟨family, ofFamily, weight, ofWeight, size, ofSize, lineHeight, ofLineHeight, spacing, ofSpacing,
    align, ofAlign, textCase, ofCase, decoration, ofDecoration, italic, ofItalic, made⟩ := read
  obtain rfl := Option.some.inj made
  have family := rereads_text.nullable distinct "fontFamily" (inside.mpr (by simp)) rfl ofFamily
  have weight := rereads_real.nullable distinct "fontWeight" (inside.mpr (by simp)) rfl ofWeight
  have size := rereads_real.nullable distinct "fontSize" (inside.mpr (by simp)) rfl ofSize
  have lineHeight := rereads_real.nullable distinct "lineHeightPx" (inside.mpr (by simp)) rfl ofLineHeight
  have spacing := rereads_real.nullable distinct "letterSpacing" (inside.mpr (by simp)) rfl ofSpacing
  have align := (rereads_named _).nullable distinct "textAlignHorizontal"
    (inside.mpr (by simp)) (decodeOr_null _) ofAlign
  have textCase := (rereads_named _).nullable distinct "textCase" (inside.mpr (by simp)) (decodeOr_null _) ofCase
  have decoration := (rereads_named _).nullable distinct "textDecoration"
    (inside.mpr (by simp)) (decodeOr_null _) ofDecoration
  have italic := rereads_bool.nullable distinct "italic" (inside.mpr (by simp)) rfl ofItalic
  simp only [family, weight, size, lineHeight, spacing, align, textCase, decoration, italic, Option.bind_eq_bind,
    Option.bind_some, Option.pure_def]

theorem RectangleRadii.rereads : Rereads toJson decode depth := by
  intro json radii read
  simp only [decode, Option.bind_eq_bind, Option.bind_eq_some_iff] at read
  obtain ⟨values, ofValues, made⟩ := read
  have again := Rereads.list (fun _ _ => rereads_real) json values ofValues
  split at made
  next topLeft topRight bottomRight bottomLeft =>
    obtain rfl := Option.some.inj made
    simp only [ReadsBack, List.map_cons, List.map_nil] at again
    simp only [ReadsBack, toJson, decode, again, Option.bind_eq_bind, Option.bind_some, Option.pure_def]
  next => cases made

theorem BoundingBox.decode_null : BoundingBox.decode depth .null = none := by cases depth <;> rfl

theorem RectangleRadii.decode_null : RectangleRadii.decode depth .null = none := by cases depth <;> rfl

theorem TypeStyle.decode_null : TypeStyle.decode depth .null = none := by cases depth <;> rfl

theorem ComponentMeta.rereads : Rereads toJson decode depth := by
  refine Rereads.record (fun _ => rfl) (fun _ => rfl) (fun _ => List.Sublist.refl _) (by decide) ?_
  intro record component all _ distinct inside read
  simp only [Option.bind_eq_bind, Option.bind_eq_some_iff] at read
  obtain ⟨key, ofKey, name, ofName, description, ofDescription, made⟩ := read
  obtain rfl := Option.some.inj made
  have key := rereads_text.defaulted distinct "key" (inside.mpr (by simp)) (readsBack_text "") ofKey
  have name := rereads_text.required distinct "name" (inside.mpr (by simp)) ofName
  have description := rereads_text.defaulted distinct "description"
    (inside.mpr (by simp)) (readsBack_text "") ofDescription
  simp only [key, name, description, Option.bind_eq_bind, Option.bind_some, Option.pure_def]

theorem StyleMeta.rereads : Rereads toJson decode depth := by
  refine Rereads.record (fun _ => rfl) (fun _ => rfl) (fun _ => List.Sublist.refl _) (by decide) ?_
  intro record style all _ distinct inside read
  simp only [Option.bind_eq_bind, Option.bind_eq_some_iff] at read
  obtain ⟨key, ofKey, name, ofName, styleType, ofType, description, ofDescription, made⟩ := read
  obtain rfl := Option.some.inj made
  have key := rereads_text.defaulted distinct "key" (inside.mpr (by simp)) (readsBack_text "") ofKey
  have name := rereads_text.required distinct "name" (inside.mpr (by simp)) ofName
  have styleType := rereads_text.defaulted distinct "styleType" (inside.mpr (by simp)) (readsBack_text "") ofType
  have description := rereads_text.defaulted distinct "description"
    (inside.mpr (by simp)) (readsBack_text "") ofDescription
  simp only [key, name, styleType, description, Option.bind_eq_bind, Option.bind_some, Option.pure_def]

theorem Paint.rereads_list (odd : depth % 2 = 1) :
    Rereads (fun paints => .array (paints.map toJson)) (Decoder.list decode) depth :=
  Rereads.list fun _ _ => rereads (by omega)

/-- What a shape says of itself, field by field, with one level left for its lists. -/
def Shape.fields (odd : depth % 2 = 1) : List (RecordField Shape depth) :=
  [.required "id" Shape.id rereads_text,
    .defaulted "name" Shape.name rereads_text (readsBack_text ""),
    .required "type" Shape.kind (rereads_named .other),
    .defaulted "visible" Shape.visible rereads_bool (readsBack_bool true),
    .nullable "absoluteBoundingBox" absoluteBoundingBox BoundingBox.rereads BoundingBox.decode_null,
    .defaulted "fills" fills (Paint.rereads_list odd) (readsBack_nil (by omega)),
    .defaulted "strokes" strokes (Paint.rereads_list odd) (readsBack_nil (by omega)),
    .nullable "strokeWeight" strokeWeight rereads_real rfl,
    .defaulted "strokeDashes" strokeDashes (.list fun _ _ => rereads_real) (readsBack_nil (by omega)),
    .defaulted "effects" effects (.list fun _ _ => Effect.rereads) (readsBack_nil (by omega)),
    .nullable "opacity" opacity rereads_real rfl,
    .nullable "cornerRadius" cornerRadius rereads_real rfl,
    .nullable "rectangleCornerRadii" rectangleCornerRadii RectangleRadii.rereads RectangleRadii.decode_null,
    .nullable "clipsContent" clipsContent rereads_bool rfl,
    .nullable "layoutMode" layoutMode (rereads_named .other) (decodeOr_null _),
    .nullable "primaryAxisAlignItems" primaryAxisAlignItems (rereads_named .other) (decodeOr_null _),
    .nullable "counterAxisAlignItems" counterAxisAlignItems (rereads_named .other) (decodeOr_null _),
    .nullable "layoutWrap" layoutWrap (rereads_named .other) (decodeOr_null _),
    .nullable "paddingTop" paddingTop rereads_real rfl,
    .nullable "paddingRight" paddingRight rereads_real rfl,
    .nullable "paddingBottom" paddingBottom rereads_real rfl,
    .nullable "paddingLeft" paddingLeft rereads_real rfl,
    .nullable "itemSpacing" itemSpacing rereads_real rfl,
    .nullable "layoutSizingHorizontal" layoutSizingHorizontal (rereads_named .other) (decodeOr_null _),
    .nullable "layoutSizingVertical" layoutSizingVertical (rereads_named .other) (decodeOr_null _),
    .nullable "minWidth" minWidth rereads_real rfl,
    .nullable "maxWidth" maxWidth rereads_real rfl,
    .nullable "minHeight" minHeight rereads_real rfl,
    .nullable "maxHeight" maxHeight rereads_real rfl,
    .nullable "characters" characters rereads_text rfl,
    .nullable "style" Shape.style TypeStyle.rereads TypeStyle.decode_null,
    .nullable "componentId" componentId rereads_text rfl]

private theorem Shape.member_fields (odd : depth % 2 = 1) (shape : Shape) :
    (fields odd).map (·.member shape) = shape.leadingMembers ++ shape.trailingMembers := rfl

/-- A shape is read of a record when each of its fields is. -/
theorem Shape.ofRecord_eq_some_iff (odd : depth % 2 = 1) {record : Record} {shape : Shape} :
    ofRecord record = some shape ↔ ∀ field ∈ fields odd, field.read record = some (field.get shape) := by
  simp only [fields, List.forall_mem_cons, List.not_mem_nil, false_implies, implies_true, and_true]
  constructor
  · intro read
    unfold ofRecord at read
    -- The reader binds one value to each field, in their order.
    iterate 32 obtain ⟨_, _, read⟩ := Option.bind_eq_some_iff.mp read
    obtain rfl := Option.some.inj read
    and_intros <;> assumption
  · intro told
    simp only [RecordField.required, RecordField.defaulted, RecordField.nullable] at told
    simp only [ofRecord, told, Option.bind_eq_bind, Option.bind_some, Option.pure_def]

/-- What a shape says of itself is read again wherever its members stand. -/
theorem Shape.ofRecord_again {record : Record} {shape : Shape} {all : List (String × Json)} (odd : record.depth % 2 = 1)
    (distinct : (all.map Prod.fst).Nodup) (inside : shape.leadingMembers ++ shape.trailingMembers ⊆ all)
    (read : ofRecord record = some shape) : ofRecord (opened all record.depth) = some shape := by
  rw [ofRecord_eq_some_iff odd] at read ⊢
  intro field listed
  have member : field.member shape ∈ all := inside (member_fields odd shape ▸ List.mem_map_of_mem listed)
  exact field.again rfl distinct member (read field listed)

/-- The members of a shape with the shapes inside it. -/
def Node.members : Node → List (String × Json)
  | .node shape children =>
    shape.leadingMembers ++ [("children", .array (children.map Node.toJson))] ++ shape.trailingMembers

private theorem Node.allToJson_eq_map (children : List Node) : allToJson children = children.map toJson := by
  induction children with
  | nil => rfl
  | cons child rest ih => rw [allToJson, ih, List.map_cons]

private theorem Node.toJson_eq (node : Node) : toJson node = .record node.members := by
  cases node with
  | node shape children => rw [toJson, members, allToJson_eq_map]

private theorem Node.names_members (node : Node) : node.members.map Prod.fst = Shape.fieldNames := by
  cases node with
  | node shape children => rfl

/-- Shapes stand at even depths, since each stands in the list of the one around it. -/
theorem Node.rereads_decodeNested (nesting : Nat) (even : depth % 2 = 0) : Rereads toJson (decodeNested nesting) depth := by
  induction nesting generalizing depth with
  | zero => exact fun _ _ read => nomatch read
  | succ nesting ih =>
    refine Rereads.record toJson_eq (fun _ => rfl) (fun node => node.names_members ▸ List.Sublist.refl _) (by decide) ?_
    intro record node all deep distinct inside read
    simp only [Option.bind_eq_bind, Option.bind_eq_some_iff] at read
    obtain ⟨shape, ofShape, children, ofChildren, made⟩ := read
    obtain rfl := Option.some.inj made
    have own : shape.leadingMembers ++ shape.trailingMembers ⊆ all := by
      intro member listed
      refine inside.mpr ?_
      rcases List.mem_append.mp listed with leading | trailing
      · simp [members, leading]
      · simp [members, trailing]
    have nested : Rereads (fun nodes => .array (nodes.map toJson)) (Decoder.list (decodeNested nesting)) record.depth :=
      Rereads.list fun room below => ih (by omega)
    have shape := Shape.ofRecord_again (by omega) distinct own ofShape
    have children := nested.defaulted distinct "children" (inside.mpr (by simp [members])) (readsBack_nil (by omega)) ofChildren
    simp only [shape, children, Option.bind_eq_bind, Option.bind_some, Option.pure_def]

theorem Node.rereads (even : depth % 2 = 0) : Rereads toJson decode depth := rereads_decodeNested depth even

theorem Entry.rereads (odd : depth % 2 = 1) (room : 2 ≤ depth) : Rereads toJson decode depth := by
  refine Rereads.record (fun _ => rfl) (fun _ => rfl) (fun _ => List.Sublist.refl _) (by decide) ?_
  intro record entry all deep distinct inside read
  simp only [Option.bind_eq_bind, Option.bind_eq_some_iff] at read
  obtain ⟨document, ofDocument, components, ofComponents, styles, ofStyles, made⟩ := read
  obtain rfl := Option.some.inj made
  have document := (Node.rereads (by omega)).required distinct "document" (inside.mpr (by simp)) ofDocument
  have components := (Rereads.map fun _ _ => ComponentMeta.rereads).defaulted distinct "components"
    (inside.mpr (by simp)) (readsBack_empty (by omega)) ofComponents
  have styles := (Rereads.map fun _ _ => StyleMeta.rereads).defaulted distinct "styles"
    (inside.mpr (by simp)) (readsBack_empty (by omega)) ofStyles
  simp only [document, components, styles, Option.bind_eq_bind, Option.bind_some, Option.pure_def]

theorem Entry.decode_null : Entry.decode depth .null = none := by cases depth <;> rfl

/-- The file itself nests as deep as a document may, and its shapes stand at even depths below that. -/
theorem File.rereads : Rereads toJson decode depthLimit := by
  have known (file : File) : ((([("name", .text file.name), ("lastModified", .text file.lastModified)]
      ++ optionalMember "thumbnailUrl" .text file.thumbnailUrl ++ optionalMember "version" .text file.version
      ++ [("nodes", .ofMap (.nullable Entry.toJson) file.nodes)] : List (String × Json))).map Prod.fst).Sublist
        ["name", "lastModified", "thumbnailUrl", "version", "nodes"] := by
    simp only [List.map_append]
    exact (((List.Sublist.refl _).append (sublist_optionalMember ..)).append (sublist_optionalMember ..)).append
      (List.Sublist.refl _)
  refine Rereads.record (fun _ => rfl) (fun _ => rfl) known (by decide) ?_
  intro record file all deep distinct inside read
  obtain depth : record.depth = 126 := (Nat.succ.inj deep).symm
  simp only [Option.bind_eq_bind, Option.bind_eq_some_iff] at read
  obtain ⟨name, ofName, modified, ofModified, thumbnail, ofThumbnail, version, ofVersion, nodes, ofNodes, made⟩ := read
  obtain rfl := Option.some.inj made
  have entries : Rereads (ofMap (.nullable Entry.toJson)) (Decoder.map (Decoder.nullable Entry.decode)) record.depth :=
    Rereads.map fun _ _ => (Entry.rereads (by omega) (by omega)).option Entry.decode_null
  have name := rereads_text.defaulted distinct "name" (inside.mpr (by simp)) (readsBack_text "") ofName
  have modified := rereads_text.defaulted distinct "lastModified" (inside.mpr (by simp)) (readsBack_text "") ofModified
  have thumbnail := rereads_text.optional distinct "thumbnailUrl" (by simp [inside, mem_optionalMember]) rfl ofThumbnail
  have version := rereads_text.optional distinct "version" (by simp [inside, mem_optionalMember]) rfl ofVersion
  have nodes := entries.defaulted distinct "nodes" (inside.mpr (by simp)) (readsBack_empty (by omega)) ofNodes
  simp only [name, modified, thumbnail, version, nodes, Option.bind_eq_bind, Option.bind_some, Option.pure_def]

theorem Images.rereads (room : 2 ≤ depth) : Rereads toJson decode depth := by
  refine Rereads.record (fun _ => rfl) (fun _ => rfl) (fun _ => List.Sublist.refl _) (by decide) ?_
  intro record images all deep distinct inside read
  simp only [Option.bind_eq_bind, Option.bind_eq_some_iff] at read
  obtain ⟨err, ofErr, images, ofImages, made⟩ := read
  obtain rfl := Option.some.inj made
  have addresses : Rereads (ofMap (.nullable .text)) (Decoder.map (Decoder.nullable Decoder.text)) record.depth :=
    Rereads.map fun _ _ => rereads_text.option rfl
  have err := (rereads_text.option rfl).defaulted distinct "err" (inside.mpr (by simp)) (readsBack_none rfl) ofErr
  have images := addresses.defaulted distinct "images" (inside.mpr (by simp)) (readsBack_empty (by omega)) ofImages
  simp only [err, images, Record.optional, Option.bind_eq_bind, Option.bind_some, Option.pure_def]

end Records

/-- A document is read from every text as from the text that is then written for it, and so are
the addresses of its pictures. -/
theorem decode_reencoded :
    (∀ source file, decodeText File.decode source = some file →
      ∀ text ∈ [file.toJson.compact, file.toJson.pretty], decodeText File.decode text = some file) ∧
    ∀ source images, decodeText Images.decode source = some images →
      ∀ text ∈ [images.toJson.compact, images.toJson.pretty], decodeText Images.decode text = some images := by
  constructor
  · intro source file read
    obtain ⟨json, -, found⟩ := Option.bind_eq_some_iff.mp read
    exact decodeText_written (File.rereads json file found)
  · intro source images read
    obtain ⟨json, -, found⟩ := Option.bind_eq_some_iff.mp read
    exact decodeText_written (Images.rereads (by decide) json images found)

/-- Frames in frames around a shape of an unknown kind, whose box has no names. -/
def sampleShape : Nat → Json
  | 0 =>
    .record [("id", .text "1:3"), ("type", .text "WASHI_TAPE"),
      ("absoluteBoundingBox", .array [.integer 0, .integer 0, .real 2, .real 1])]
  | nesting + 1 => .record [("id", .text "1:2"), ("type", .text "FRAME"), ("children", .array [sampleShape nesting])]

/-- An id comes twice, and the shapes under it nest as deep as a document may. -/
def sampleFile : Json :=
  .record [("nodes", .record [("1:2", .null), ("9:9", .null), ("1:2", .record [("document", sampleShape 61)])])]

def sampleImages : Json := .record [("images", .record [("1:2", .text "a.png"), ("1:3", .null), ("1:2", .text "b.png")])]

theorem decode_reencoded_sample :
    ∃ file images, decodeText File.decode sampleFile.compact = some file ∧
      decodeText Images.decode sampleImages.compact = some images ∧ file.nodes.keys = ["1:2", "9:9"] ∧
      images.images.entries = [("1:2", some "b.png"), ("1:3", none)] ∧
      decodeText File.decode file.toJson.compact = some file ∧
      decodeText Images.decode images.toJson.compact = some images := by
  have source : parse sampleFile.compact = some sampleFile.written := parse_compact sampleFile
  have found : (decodeText File.decode sampleFile.compact).map (·.nodes.keys) = some ["1:2", "9:9"] := by
    rw [decodeText, source]
    decide +kernel
  obtain ⟨file, read, keys⟩ := Option.map_eq_some_iff.mp found
  have pictures : (decodeText Images.decode sampleImages.compact).map (·.images.entries) =
      some [("1:2", some "b.png"), ("1:3", none)] := by decide +kernel
  obtain ⟨images, readImages, entries⟩ := Option.map_eq_some_iff.mp pictures
  exact ⟨file, images, read, readImages, keys, entries, decode_reencoded.1 _ file read _ (by simp),
    decode_reencoded.2 _ images readImages _ (by simp)⟩

end Handoff.Document
