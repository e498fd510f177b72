import Handoff.Interpretation.Design
import Handoff.Proofs.DesignStorage
import Handoff.Proofs.DocumentPromises

/-! What a layer is made of fits where its shape was. Every part of a layer has finite numbers,
and its text nests at most two levels deeper than the text inside the shape's record did. -/

namespace Handoff.Interpretation
open Json

/-- A part of a layer that can be saved where a text of some depth is allowed. -/
def Fits (numbers : List Binary64) (json : Json) (bound : Nat) : Prop := AllFinite numbers ∧ json.depth ≤ bound

theorem isFinite_nonNegative {x : Binary64} (finite : x.isFinite = true) : (nonNegative x).isFinite = true := by
  unfold nonNegative
  split
  · exact finite
  · rfl

theorem isFinite_lengthOf (value : Option Binary64) : (lengthOf value).isFinite = true := by
  refine isFinite_nonNegative ?_
  cases kept : value.filter Binary64.isFinite with
  | none => rfl
  | some x => exact (Option.filter_eq_some_iff.mp kept).2

theorem isFinite_getD {value : Option Binary64} {default : Binary64} (finite : Document.AllFinite value)
    (fallback : default.isFinite = true) : (value.getD default).isFinite = true := by
  cases value with
  | none => exact fallback
  | some x => exact finite x rfl

private theorem isFinite_clamp {low high value : Binary64} (lower : low.isFinite = true) (upper : high.isFinite = true)
    (finite : value.isFinite = true) : (Binary64.clamp low high value).isFinite = true := by
  unfold Binary64.clamp
  split
  · exact lower
  · split
    · exact upper
    · exact finite

private theorem depth_stop (stop : GradientStop) : stop.toJson.depth = 2 := rfl

theorem Fits.array {α : Type} {numbers : α → List Binary64} {encode : α → Json} {values : List α} {bound : Nat}
    (fits : ∀ a ∈ values, Fits (numbers a) (encode a) bound) :
    Fits (values.flatMap numbers) (.array (values.map encode)) (bound + 1) := by
  refine ⟨List.forall_mem_flatMap.mpr fun a member => (fits a member).1, depth_array_le.mpr ⟨Nat.succ_pos bound, ?_⟩⟩
  rw [List.forall_mem_map]
  exact fun a member => (fits a member).2

private theorem fits_stopsOf {stops : List Document.ColorStop} {bound : Nat} (opacity : Option Binary64) (room : 1 ≤ bound)
    (sound : ∀ stop ∈ stops, 3 ≤ bound ∧ stop.position.isFinite = true) :
    Fits ((stopsOf stops opacity).flatMap GradientStop.numbers)
      (.array ((stopsOf stops opacity).map GradientStop.toJson)) bound := by
  obtain ⟨inner, rfl⟩ := Nat.exists_eq_add_of_le' room
  refine Fits.array ?_
  intro stop member
  obtain ⟨given, inside, rfl⟩ := List.mem_map.mp member
  obtain ⟨deep, finite⟩ := sound given inside
  refine ⟨List.forall_mem_cons.mpr ⟨finite, Color.allFinite_numbers _⟩, ?_⟩
  rw [depth_stop]
  omega

private theorem fits_fillOf {paint : Document.Paint} {fill : Fill} {bound : Nat} (sound : paint.Sound bound)
    (made : fillOf? paint = some fill) : Fits fill.numbers fill.toJson (bound + 1) := by
  obtain ⟨room, stops⟩ := sound
  have flat : ∀ s, (text s).depth ≤ bound := fun _ => Nat.zero_le _
  obtain ⟨ofStops, inStops⟩ := fits_stopsOf paint.opacity room stops
  have gradient : ∀ kind, (record [("type", .text kind),
      ("stops", .array ((stopsOf paint.gradientStops paint.opacity).map GradientStop.toJson))]).depth ≤ bound + 1 :=
    fun kind => depth_record_le.mpr
      ⟨Nat.succ_pos bound, List.forall_mem_cons.mpr ⟨flat kind, List.forall_mem_singleton.mpr inStops⟩⟩
  unfold fillOf? at made
  split at made
  · split at made
    · obtain ⟨color, -, rfl⟩ := Option.map_eq_some_iff.mp made
      refine ⟨Color.allFinite_numbers _, depth_record_le.mpr ⟨Nat.succ_pos bound, ?_⟩⟩
      exact List.forall_mem_cons.mpr ⟨flat _, List.forall_mem_singleton.mpr room⟩
    · obtain rfl := Option.some.inj made
      exact ⟨ofStops, gradient _⟩
    · obtain rfl := Option.some.inj made
      exact ⟨ofStops, gradient _⟩
    · obtain rfl := Option.some.inj made
      refine ⟨List.forall_mem_nil _, depth_record_le.mpr ⟨Nat.succ_pos bound, ?_⟩⟩
      exact List.forall_mem_cons.mpr ⟨flat _, forall_mem_optionalMember.mpr fun _ _ => flat _⟩
    all_goals cases made
  · cases made

private theorem fits_bordersOf {shape : Document.Shape} {bound : Nat} (sound : shape.Sound bound) :
    ∀ border ∈ bordersOf shape, Fits border.numbers border.toJson (bound + 1) := by
  intro border member
  obtain ⟨paint, visible, made⟩ := List.mem_filterMap.mp member
  obtain ⟨color, -, rfl⟩ := Option.map_eq_some_iff.mp made
  have room := (sound.strokes paint (List.mem_of_mem_filter visible)).1
  have width : (shape.strokeWeight.getD 1).isFinite = true := isFinite_getD sound.strokeWeight (by decide +kernel)
  refine ⟨List.forall_mem_cons.mpr ⟨isFinite_nonNegative width, Color.allFinite_numbers _⟩, ?_⟩
  exact Nat.succ_le_succ room

private theorem fits_shadowsOf {shape : Document.Shape} {bound : Nat} (sound : shape.Sound bound) :
    ∀ shadow ∈ shadowsOf shape, Fits shadow.numbers shadow.toJson (bound + 1) := by
  intro shadow member
  obtain ⟨effect, visible, made⟩ := List.mem_filterMap.mp member
  obtain ⟨kind, -, rfl⟩ := Option.map_eq_some_iff.mp made
  obtain ⟨room, effectSound⟩ := sound.effects effect (List.mem_of_mem_filter visible)
  have offset : (effect.offset.getD ⟨0, 0⟩).Sound bound := by
    cases given : effect.offset with
    | none => exact ⟨rfl, rfl⟩
    | some offset => exact effectSound.offset offset given
  have blur := isFinite_nonNegative effectSound.radius
  have spread : (effect.spread.getD 0).isFinite = true := isFinite_getD effectSound.spread rfl
  refine ⟨?_, Nat.succ_le_succ room⟩
  simp only [Shadow.numbers, AllFinite, List.forall_mem_append, List.forall_mem_cons]
  exact ⟨⟨offset.1, offset.2, blur, spread, List.forall_mem_nil _⟩, Color.allFinite_numbers _⟩

private theorem fits_radiiOf {shape : Document.Shape} {bound : Nat} (sound : shape.Sound bound) :
    Fits (radiiOf shape).numbers (radiiOf shape).toJson 1 := by
  refine ⟨?_, Nat.le_refl 1⟩
  unfold radiiOf
  split
  next radii given =>
    have corners := sound.rectangleCornerRadii radii given
    simp only [CornerRadii.numbers, AllFinite, List.forall_mem_cons]
    exact ⟨isFinite_nonNegative corners.topLeft, isFinite_nonNegative corners.topRight,
      isFinite_nonNegative corners.bottomRight,
      isFinite_nonNegative corners.bottomLeft, List.forall_mem_nil _⟩
  next =>
    have radius := isFinite_nonNegative (isFinite_getD sound.cornerRadius (rfl : (0 : Binary64).isFinite = true))
    simp only [CornerRadii.uniform, CornerRadii.numbers, AllFinite, List.forall_mem_cons]
    exact ⟨radius, radius, radius, radius, List.forall_mem_nil _⟩

private theorem fits_layoutOf (shape : Document.Shape) : Fits (layoutOf shape).numbers (layoutOf shape).toJson 2 := by
  refine ⟨?_, Nat.le_refl 2⟩
  simp only [Layout.numbers, Padding.numbers, layoutOf, AllFinite, List.forall_mem_cons]
  exact ⟨isFinite_lengthOf _, isFinite_lengthOf _, isFinite_lengthOf _, isFinite_lengthOf _, isFinite_lengthOf _,
    List.forall_mem_nil _⟩

private theorem fits_sizeOf (mode : Option Document.SizingMode) (extent : Option Binary64) :
    Fits (sizeOf mode extent).numbers (sizeOf mode extent).toJson 1 := by
  unfold sizeOf
  split
  · exact ⟨List.forall_mem_nil _, Nat.zero_le 1⟩
  · exact ⟨List.forall_mem_nil _, Nat.zero_le 1⟩
  · exact ⟨List.forall_mem_singleton.mpr (isFinite_lengthOf extent), Nat.le_refl 1⟩

private theorem fits_dimensionsOf {shape : Document.Shape} {bound : Nat} (sound : shape.Sound bound) :
    Fits (dimensionsOf shape).numbers (dimensionsOf shape).toJson 2 := by
  obtain ⟨ofWidth, inWidth⟩ := fits_sizeOf shape.layoutSizingHorizontal (shape.absoluteBoundingBox.map (·.width))
  obtain ⟨ofHeight, inHeight⟩ := fits_sizeOf shape.layoutSizingVertical (shape.absoluteBoundingBox.map (·.height))
  have flat : ∀ value : Option Binary64, ∀ x ∈ value, (real x).depth ≤ 1 := fun _ _ _ => Nat.zero_le 1
  refine ⟨?_, depth_record_le.mpr ⟨by decide, ?_⟩⟩
  · simp only [Dimensions.numbers, AllFinite, List.forall_mem_append, List.flatMap_cons, List.flatMap_nil,
      List.append_nil, Option.mem_toList]
    exact ⟨⟨ofWidth, ofHeight⟩, sound.minWidth, sound.maxWidth, sound.minHeight, sound.maxHeight⟩
  · simp only [List.forall_mem_append, List.forall_mem_cons, forall_mem_optionalMember]
    exact ⟨⟨⟨⟨⟨inWidth, inHeight, List.forall_mem_nil _⟩, flat _⟩, flat _⟩, flat _⟩, flat _⟩

private theorem fits_textStyleOf {style : Document.TypeStyle} {bound : Nat} (sound : style.Sound bound) :
    Fits (textStyleOf style).numbers (textStyleOf style).toJson 1 := by
  have fontSize : (style.fontSize.getD 16).isFinite = true := isFinite_getD sound.fontSize (by decide +kernel)
  have lineHeight : (style.lineHeightPx.getD 0).isFinite = true := isFinite_getD sound.lineHeightPx rfl
  have letterSpacing : (style.letterSpacing.getD 0).isFinite = true := isFinite_getD sound.letterSpacing rfl
  refine ⟨?_, Nat.le_refl 1⟩
  simp only [TextStyle.numbers, textStyleOf, AllFinite, List.forall_mem_cons]
  exact ⟨fontSize, lineHeight, letterSpacing, List.forall_mem_nil _⟩

/-- A layer needs at most two levels more than its shape had inside its record. -/
theorem fits_layerOf {shape : Document.Shape} {bound : Nat} (sound : shape.Sound bound) :
    AllFinite (layerOf shape).numbers ∧ ∀ member ∈ (layerOf shape).members, member.2.depth ≤ bound + 2 := by
  have fills : ∀ fill ∈ fillsOf shape, Fits fill.numbers fill.toJson bound := by
    intro fill member
    obtain ⟨paint, inside, made⟩ := List.mem_filterMap.mp member
    obtain ⟨room, paintSound⟩ := sound.fills paint inside
    exact Nat.sub_add_cancel room ▸ fits_fillOf paintSound made
  obtain ⟨ofFills, inFills⟩ := Fits.array fills
  obtain ⟨ofBorders, inBorders⟩ := Fits.array (fits_bordersOf sound)
  obtain ⟨ofShadows, inShadows⟩ := Fits.array (fits_shadowsOf sound)
  obtain ⟨ofRadii, inRadii⟩ := fits_radiiOf sound
  obtain ⟨ofLayout, inLayout⟩ := fits_layoutOf shape
  obtain ⟨ofDimensions, inDimensions⟩ := fits_dimensionsOf sound
  have opacity : (Binary64.clamp 0 1 (shape.opacity.getD 1)).isFinite = true :=
    isFinite_clamp rfl (by decide +kernel) (isFinite_getD sound.opacity (by decide +kernel))
  have styles : ∀ style ∈ shape.style.map textStyleOf, Fits style.numbers style.toJson 1 := by
    intro style member
    obtain ⟨given, inside, rfl⟩ := Option.map_eq_some_iff.mp member
    exact fits_textStyleOf (sound.style given inside)
  refine ⟨?_, ?_⟩
  · simp only [Layer.numbers, layerOf, AllFinite, List.forall_mem_append, List.forall_mem_singleton,
      List.forall_mem_flatMap,
      Option.mem_toList]
    exact ⟨⟨⟨⟨⟨⟨⟨List.forall_mem_flatMap.mp ofFills, List.forall_mem_flatMap.mp ofBorders⟩,
      List.forall_mem_flatMap.mp ofShadows⟩,
      ofRadii⟩, opacity⟩, ofLayout⟩, ofDimensions⟩, fun style member => (styles style member).1⟩
  · exact Layer.depth_members_le (fun _ => Nat.le_succ_of_le inFills) (fun _ => inBorders) (fun _ => inShadows)
      (Nat.le_trans inRadii (Nat.le_add_left 1 (bound + 1))) (Nat.le_trans inLayout (Nat.le_add_left 2 bound))
      (Nat.le_trans inDimensions (Nat.le_add_left 2 bound))
      fun style member => Nat.le_trans (styles style member).2 (Nat.le_add_left 1 (bound + 1))

end Handoff.Interpretation
