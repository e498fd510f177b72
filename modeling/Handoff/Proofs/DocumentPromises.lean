import Handoff.Document.Decoding
import Handoff.Proofs.DecodingRoom

/-! What is known of a document that was read: its numbers are finite, and what it holds takes
room of the text that it was read from. -/

namespace Handoff.Document
open Json

def AllFinite (numbers : Option Binary64) : Prop := ∀ x ∈ numbers, x.isFinite = true

namespace ColorStop

def Sound (bound : Nat) (stop : ColorStop) : Prop := 1 ≤ bound ∧ stop.position.isFinite = true

theorem promises_decode : Promises decode Sound := by
  refine Promises.record (fun _ _ => rfl) ?_
  intro record inner stop within read
  simp only [Option.bind_eq_bind, Option.bind_eq_some_iff] at read
  obtain ⟨position, ofPosition, color, -, made⟩ := read
  obtain rfl := Option.some.inj made
  exact ⟨Nat.succ_pos inner, within.required Promises.binary64 ofPosition⟩

end ColorStop

namespace Paint

/-- Stops of a gradient are three levels inside its paint. -/
def Sound (bound : Nat) (paint : Paint) : Prop :=
  1 ≤ bound ∧ ∀ stop ∈ paint.gradientStops, 3 ≤ bound ∧ stop.position.isFinite = true

theorem promises_decode : Promises decode Sound := by
  refine Promises.record (fun _ _ => rfl) ?_
  intro record inner paint within read
  simp only [Option.bind_eq_bind, Option.bind_eq_some_iff] at read
  obtain ⟨kind, -, visible, -, opacity, -, color, -, stops, ofStops, imageRef, -, made⟩ := read
  obtain rfl := Option.some.inj made
  refine ⟨Nat.succ_pos inner, ?_⟩
  intro stop member
  obtain ⟨room, deeper, finite⟩ := ColorStop.promises_decode.listed within ofStops stop member
  exact ⟨by omega, finite⟩

end Paint

def Offset.Sound (_ : Nat) (offset : Offset) : Prop := offset.x.isFinite = true ∧ offset.y.isFinite = true

theorem Offset.promises_decode : Promises decode Sound := by
  refine Promises.record (fun _ _ => rfl) ?_
  intro record inner offset within read
  simp only [Option.bind_eq_bind, Option.bind_eq_some_iff] at read
  obtain ⟨x, ofX, y, ofY, made⟩ := read
  obtain rfl := Option.some.inj made
  exact ⟨within.required Promises.binary64 ofX, within.required Promises.binary64 ofY⟩

namespace Effect

structure Sound (bound : Nat) (effect : Effect) : Prop where
  room : 1 ≤ bound
  offset : ∀ offset ∈ effect.offset, offset.x.isFinite = true ∧ offset.y.isFinite = true
  radius : effect.radius.isFinite = true
  spread : AllFinite effect.spread

theorem promises_decode : Promises decode Sound := by
  refine Promises.record (fun _ _ => rfl) ?_
  intro record inner effect within read
  simp only [Option.bind_eq_bind, Option.bind_eq_some_iff] at read
  obtain ⟨kind, -, visible, -, color, -, offset, ofOffset, radius, ofRadius, spread, ofSpread, made⟩ := read
  obtain rfl := Option.some.inj made
  refine ⟨Nat.succ_pos inner, within.nullable Offset.promises_decode ofOffset, ?_,
    within.nullable Promises.binary64 ofSpread⟩
  rcases within.defaulted Promises.binary64 ofRadius with rfl | finite
  · rfl
  · exact finite

end Effect

namespace TypeStyle

structure Sound (_ : Nat) (style : TypeStyle) : Prop where
  fontWeight : AllFinite style.fontWeight
  fontSize : AllFinite style.fontSize
  lineHeightPx : AllFinite style.lineHeightPx
  letterSpacing : AllFinite style.letterSpacing

theorem promises_decode : Promises decode Sound := by
  refine Promises.record (fun _ _ => rfl) ?_
  intro record inner style within read
  simp only [Option.bind_eq_bind, Option.bind_eq_some_iff] at read
  obtain ⟨fontFamily, -, fontWeight, ofFontWeight, fontSize, ofFontSize, lineHeightPx, ofLineHeight, letterSpacing,
    ofSpacing, textAlign, -,
    textCase, -, textDecoration, -, italic, -, made⟩ := read
  obtain rfl := Option.some.inj made
  exact ⟨within.nullable Promises.binary64 ofFontWeight, within.nullable Promises.binary64 ofFontSize,
    within.nullable Promises.binary64 ofLineHeight, within.nullable Promises.binary64 ofSpacing⟩

end TypeStyle

namespace RectangleRadii

structure Sound (_ : Nat) (radii : RectangleRadii) : Prop where
  topLeft : radii.topLeft.isFinite = true
  topRight : radii.topRight.isFinite = true
  bottomRight : radii.bottomRight.isFinite = true
  bottomLeft : radii.bottomLeft.isFinite = true

theorem promises_decode : Promises decode Sound := by
  intro depth json radii bound read room
  obtain ⟨values, found, read⟩ := Option.bind_eq_some_iff.mp read
  have promised := Promises.binary64.list found room
  split at read
  next topLeft topRight bottomRight bottomLeft =>
    obtain rfl := Option.some.inj read
    simp only [List.forall_mem_cons] at promised
    obtain ⟨⟨-, topLeft⟩, ⟨-, topRight⟩, ⟨-, bottomRight⟩, ⟨-, bottomLeft⟩, -⟩ := promised
    exact ⟨topLeft, topRight, bottomRight, bottomLeft⟩
  next => cases read

end RectangleRadii

namespace Shape

/-- A shape whose record leaves some room for its fields. -/
structure Sound (bound : Nat) (shape : Shape) : Prop where
  fills : ∀ paint ∈ shape.fills, 1 ≤ bound ∧ paint.Sound (bound - 1)
  strokes : ∀ paint ∈ shape.strokes, 1 ≤ bound ∧ paint.Sound (bound - 1)
  strokeWeight : AllFinite shape.strokeWeight
  effects : ∀ effect ∈ shape.effects, 1 ≤ bound ∧ effect.Sound (bound - 1)
  opacity : AllFinite shape.opacity
  cornerRadius : AllFinite shape.cornerRadius
  rectangleCornerRadii : ∀ radii ∈ shape.rectangleCornerRadii, radii.Sound bound
  minWidth : AllFinite shape.minWidth
  maxWidth : AllFinite shape.maxWidth
  minHeight : AllFinite shape.minHeight
  maxHeight : AllFinite shape.maxHeight
  style : ∀ style ∈ shape.style, style.Sound bound

theorem sound_ofRecord {record : Record} {bound : Nat} {shape : Shape} (within : record.Within bound)
    (read : ofRecord record = some shape) : shape.Sound bound := by
  rw [ofRecord] at read
  iterate 5 obtain ⟨_, -, read⟩ := Option.bind_eq_some_iff.mp read
  obtain ⟨_, ofFills, read⟩ := Option.bind_eq_some_iff.mp read
  obtain ⟨_, ofStrokes, read⟩ := Option.bind_eq_some_iff.mp read
  obtain ⟨_, ofWeight, read⟩ := Option.bind_eq_some_iff.mp read
  obtain ⟨_, -, read⟩ := Option.bind_eq_some_iff.mp read
  obtain ⟨_, ofEffects, read⟩ := Option.bind_eq_some_iff.mp read
  obtain ⟨_, ofOpacity, read⟩ := Option.bind_eq_some_iff.mp read
  obtain ⟨_, ofRadius, read⟩ := Option.bind_eq_some_iff.mp read
  obtain ⟨_, ofRadii, read⟩ := Option.bind_eq_some_iff.mp read
  iterate 12 obtain ⟨_, -, read⟩ := Option.bind_eq_some_iff.mp read
  obtain ⟨_, ofMinWidth, read⟩ := Option.bind_eq_some_iff.mp read
  obtain ⟨_, ofMaxWidth, read⟩ := Option.bind_eq_some_iff.mp read
  obtain ⟨_, ofMinHeight, read⟩ := Option.bind_eq_some_iff.mp read
  obtain ⟨_, ofMaxHeight, read⟩ := Option.bind_eq_some_iff.mp read
  obtain ⟨_, -, read⟩ := Option.bind_eq_some_iff.mp read
  obtain ⟨_, ofStyle, read⟩ := Option.bind_eq_some_iff.mp read
  obtain ⟨_, -, made⟩ := Option.bind_eq_some_iff.mp read
  obtain rfl := Option.some.inj made
  exact
    { fills := Paint.promises_decode.listed within ofFills
      strokes := Paint.promises_decode.listed within ofStrokes
      strokeWeight := within.nullable Promises.binary64 ofWeight
      effects := Effect.promises_decode.listed within ofEffects
      opacity := within.nullable Promises.binary64 ofOpacity
      cornerRadius := within.nullable Promises.binary64 ofRadius
      rectangleCornerRadii := within.nullable RectangleRadii.promises_decode ofRadii
      minWidth := within.nullable Promises.binary64 ofMinWidth
      maxWidth := within.nullable Promises.binary64 ofMaxWidth
      minHeight := within.nullable Promises.binary64 ofMinHeight
      maxHeight := within.nullable Promises.binary64 ofMaxHeight
      style := within.nullable TypeStyle.promises_decode ofStyle }

end Shape

end Handoff.Document
