import Handoff.Proofs.InterpretedDesigns

/-! The ranges of a layer. Whatever numbers a received document has, the lengths of a design
made of it are not negative, its opacities lie in the unit interval, its font weights between
one and a thousand, and its colours are written as their channels are. -/

namespace Handoff

namespace Binary64

private theorem le_of_lt {x y : Binary64} (less : x < y) : x ≤ y := by
  change related _ x y = true at less
  change related _ x y = true
  unfold related at less ⊢
  split at less
  next => exact decide_eq_true (Int.le_of_lt (of_decide_eq_true less))
  next => cases less

private theorem le_of_not_lt {x y : Binary64} (left : x.isFinite = true) (right : y.isFinite = true) (less : ¬y < x) : x ≤ y := by
  cases x with
  | nan | infinite => cases left
  | finite =>
    cases y with
    | nan | infinite => cases right
    | finite => exact decide_eq_true (Int.not_lt.mp fun before => less (decide_eq_true before))

private theorem clamp_unit_mem {x : Binary64} (finite : x.isFinite = true) : 0 ≤ clamp 0 1 x ∧ clamp 0 1 x ≤ 1 := by
  have one : (1 : Binary64).isFinite = true := by decide +kernel
  unfold clamp
  split
  next => exact ⟨by decide +kernel, by decide +kernel⟩
  next notBelow =>
    split
    next => exact ⟨by decide +kernel, by decide +kernel⟩
    next notAbove => exact ⟨le_of_not_lt rfl finite notBelow, le_of_not_lt finite one notAbove⟩

private theorem roundToInt_mem {x : Binary64} (finite : x.isFinite = true) {low high : Int} (bounds : low ≤ high) :
    low ≤ roundToInt low high x ∧ roundToInt low high x ≤ high := by
  cases x with
  | nan | infinite => cases finite
  | finite negative magnitude =>
    rw [roundToInt]
    omega

end Binary64

/-- A byte as two digits, of which letters are small ones. -/
structure Text.IsHexPair (byte : UInt8) (digits : List Char) : Prop where
  length : digits.length = 2
  small : ∀ c ∈ digits, c ∈ "0123456789abcdef".toList
  value : hexNumber? digits = some byte.toNat

namespace Color

/-- The channels of a colour, one pair of digits after the other. -/
def IsWritten (color : Color) (s : String) : Prop :=
  ∃ red green blue, s.toList = red ++ (green ++ blue) ∧ Text.IsHexPair color.red red ∧
    Text.IsHexPair color.green green ∧ Text.IsHexPair color.blue blue

theorem isHexPair_hexPair (byte : UInt8) : Text.IsHexPair byte (Text.hexPair byte.toNat) := by
  have bytes : ∀ n < 256, (∀ c ∈ Text.hexPair n, c ∈ "0123456789abcdef".toList) ∧
      Text.hexNumber? (Text.hexPair n) = some n := by decide +kernel
  obtain ⟨small, value⟩ := bytes byte.toNat byte.toNat_lt
  exact ⟨rfl, small, value⟩

private theorem isWritten_hex (color : Color) : color.IsWritten color.hex := by
  refine ⟨_, _, _, ?_, isHexPair_hexPair _, isHexPair_hexPair _, isHexPair_hexPair _⟩
  rw [hex, String.toList_ofList, List.flatMap_cons, List.flatMap_cons, List.flatMap_cons, List.flatMap_nil, List.append_nil]

end Color

def Fill.colors : Fill → List Color
  | .solid color => [color]
  | .linear stops => stops.map (·.color)
  | .radial stops => stops.map (·.color)
  | .image _ => []

namespace Layer

def colors (layer : Layer) : List Color :=
  layer.fills.flatMap Fill.colors ++ layer.borders.map (·.color) ++ layer.shadows.map (·.color)

/-- The ranges that are promised to whoever reads a design. -/
structure InRange (layer : Layer) : Prop where
  gap : 0 ≤ layer.layout.gap
  padding : ∀ side ∈ layer.layout.padding.numbers, 0 ≤ side
  radii : ∀ radius ∈ layer.radii.numbers, 0 ≤ radius
  borders : ∀ border ∈ layer.borders, 0 ≤ border.width
  shadows : ∀ shadow ∈ layer.shadows, 0 ≤ shadow.blur
  opacity : 0 ≤ layer.opacity ∧ layer.opacity ≤ 1
  sizes : ∀ size ∈ [layer.dimensions.width, layer.dimensions.height], ∀ pixels ∈ size.pixels?, 0 ≤ pixels
  fontWeight : ∀ style ∈ layer.textStyle, 1 ≤ style.fontWeight.toNat ∧ style.fontWeight.toNat ≤ 1000
  colors : ∀ color ∈ layer.colors, (0 ≤ color.alpha ∧ color.alpha ≤ 1) ∧ color.IsWritten color.hex

end Layer

namespace Interpretation
open Json

theorem nonNegative_nonneg (x : Binary64) : 0 ≤ nonNegative x := by
  unfold nonNegative
  split
  next positive => exact Binary64.le_of_lt positive
  next => decide

private theorem sizeOf_nonneg (mode : Option Document.SizingMode) (extent : Option Binary64) :
    ∀ pixels ∈ (sizeOf mode extent).pixels?, 0 ≤ pixels := by
  unfold sizeOf
  split
  · exact fun _ absurd => nomatch absurd
  · exact fun _ absurd => nomatch absurd
  · rintro _ ⟨⟩
    exact nonNegative_nonneg _

private theorem radiiOf_nonneg (shape : Document.Shape) : ∀ radius ∈ (radiiOf shape).numbers, 0 ≤ radius := by
  unfold radiiOf
  split <;> simp only [CornerRadii.numbers, CornerRadii.uniform, List.forall_mem_cons]
  · exact ⟨nonNegative_nonneg _, nonNegative_nonneg _, nonNegative_nonneg _, nonNegative_nonneg _, List.forall_mem_nil _⟩
  · exact ⟨nonNegative_nonneg _, nonNegative_nonneg _, nonNegative_nonneg _, nonNegative_nonneg _, List.forall_mem_nil _⟩

private theorem fontWeightOf_mem {weight : Binary64} (finite : weight.isFinite = true) :
    1 ≤ (fontWeightOf weight).toNat ∧ (fontWeightOf weight).toNat ≤ 1000 := by
  have bounds := Binary64.roundToInt_mem finite (by decide : (1 : Int) ≤ 1000)
  have small : (weight.roundToInt 1 1000).toNat < UInt16.size := Nat.lt_of_le_of_lt (Int.toNat_le.mpr bounds.2) (by decide)
  rw [fontWeightOf, UInt16.toNat_ofNat_of_lt' small]
  omega

private theorem inRange_layerOf {shape : Document.Shape} {bound : Nat} (sound : shape.Sound bound) : (layerOf shape).InRange where
  gap := nonNegative_nonneg _
  padding := by
    simp only [layerOf, layoutOf, Padding.numbers, List.forall_mem_cons]
    exact ⟨nonNegative_nonneg _, nonNegative_nonneg _, nonNegative_nonneg _, nonNegative_nonneg _, List.forall_mem_nil _⟩
  radii := radiiOf_nonneg shape
  borders := by
    intro border member
    obtain ⟨paint, -, made⟩ := List.mem_filterMap.mp member
    obtain ⟨color, -, rfl⟩ := Option.map_eq_some_iff.mp made
    exact nonNegative_nonneg _
  shadows := by
    intro shadow member
    obtain ⟨effect, -, made⟩ := List.mem_filterMap.mp member
    obtain ⟨kind, -, rfl⟩ := Option.map_eq_some_iff.mp made
    exact nonNegative_nonneg _
  opacity := Binary64.clamp_unit_mem (isFinite_getD sound.opacity (by decide +kernel))
  sizes := by
    simp only [layerOf, dimensionsOf, List.forall_mem_cons]
    exact ⟨sizeOf_nonneg _ _, sizeOf_nonneg _ _, List.forall_mem_nil _⟩
  fontWeight := by
    intro style member
    obtain ⟨given, inside, rfl⟩ := Option.map_eq_some_iff.mp member
    cases weight : given.fontWeight with
    | none => simp [textStyleOf, weight]
    | some value =>
      simp only [textStyleOf, weight]
      exact fontWeightOf_mem ((sound.style given inside).fontWeight value weight)
  colors := fun color _ => ⟨color.alpha_mem, color.isWritten_hex⟩

/-- Every shape of a document leaves some room, and its numbers are finite. -/
def SoundNode (_ : Nat) (node : Document.Node) : Prop := ∀ shape ∈ node.values, ∃ bound, shape.Sound bound

private theorem promises_soundNode (nesting : Nat) : Promises (Document.Node.decodeNested nesting) SoundNode := by
  induction nesting with
  | zero => exact fun read _ => nomatch read
  | succ nesting ih =>
    refine Promises.record (fun _ _ => rfl) ?_
    intro record inner node within read
    simp only [Option.bind_eq_bind, Option.bind_eq_some_iff] at read
    obtain ⟨shape, ofShape, children, ofChildren, made⟩ := read
    obtain rfl := Option.some.inj made
    rw [SoundNode, Tree.values_node, List.forall_mem_cons, List.forall_mem_flatMap]
    exact ⟨⟨inner, Document.Shape.sound_ofRecord within ofShape⟩, fun child member => (ih.listed within ofChildren child member).2⟩

/-- All layers of a design that is made of a received document are in range. -/
theorem inRange_designOf {s : String} {file : Document.File} {rootId : String} {design : Design}
    (received : decodeText Document.File.decode s = some file) (made : designOf file rootId = .ok design) :
    ∀ layer ∈ design.root.values, layer.InRange := by
  obtain ⟨entry, given, root⟩ := designOf_ok made
  obtain ⟨source, -, read⟩ := Option.bind_eq_some_iff.mp received
  have promises : Promises Document.Node.decode SoundNode := fun read room => promises_soundNode _ read room
  obtain ⟨-, sound⟩ := promises.inside (inside_of_node? read given) (Nat.le_refl _)
  intro layer member
  obtain ⟨shape, inside, rfl⟩ := mem_values_nodeOf (root ▸ member)
  obtain ⟨bound, sound⟩ := sound shape inside
  exact inRange_layerOf sound

/-- A text whose numbers are out of every range. -/
def wildShape : Json :=
  .record [("id", .text "1:2"), ("type", .text "TEXT"), ("opacity", .integer (-2)), ("itemSpacing", .integer (-4)),
    ("paddingLeft", .real (-1 / 2)), ("cornerRadius", .integer (-1)), ("strokeWeight", .integer (-3)),
    ("strokes", .array [.record [("type", .text "SOLID"), ("opacity", .integer 1000000),
      ("color", .record [("r", .integer 7), ("g", .integer (-1)), ("b", .real (1 / 2)), ("a", .integer 9)])]]),
    ("effects", .array [.record [("type", .text "DROP_SHADOW"), ("radius", .integer (-8))]]),
    ("style", .record [("fontWeight", .integer 100000)])]

def wildSource : Json := .record [("nodes", .record [("1:2", .record [("document", wildShape)])])]

theorem inRange_designOf_wild :
    ∃ file design, decodeText Document.File.decode wildSource.pretty = some file ∧ designOf file "1:2" = .ok design ∧
      ∀ layer ∈ design.root.values, layer.InRange := by
  have found : ((decodeText Document.File.decode wildSource.pretty).bind (·.node? "1:2")).isSome = true := by
    rw [decodeText, parse_pretty]
    decide +kernel
  obtain ⟨entry, present⟩ := Option.isSome_iff_exists.mp found
  obtain ⟨file, received, given⟩ := Option.bind_eq_some_iff.mp present
  obtain ⟨design, made⟩ : ∃ design, designOf file "1:2" = .ok design := by
    rw [designOf, given]
    exact ⟨_, rfl⟩
  exact ⟨file, design, received, made, inRange_designOf received made⟩

end Interpretation

end Handoff
