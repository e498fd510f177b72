import Handoff.Proofs.RecordFields

/-! What a layer looks like is saved without loss. Every record of a style is read back when
its numbers are finite, and no document that is too shallow for it is read. -/

namespace Handoff
open Json

/-- Numbers that have a JSON form. -/
def AllFinite (numbers : List Binary64) : Prop := ∀ x ∈ numbers, x.isFinite = true

namespace Color

/-- The numbers of a colour that are not whole. -/
def numbers (color : Color) : List Binary64 := [color.alpha]

theorem allFinite_numbers (color : Color) : AllFinite color.numbers :=
  List.forall_mem_singleton.mpr (Binary64.isFinite_of_mem_unit color.alpha_mem)

private theorem rgba_self (color : Color) : rgba color.red color.green color.blue color.alpha = color := by
  obtain ⟨red, green, blue, alpha, unit⟩ := color
  have same : unitAlpha alpha = alpha := if_pos unit
  simp only [rgba, same]

theorem keeps (color : Color) : Keeps toJson decode color := by
  refine Keeps.record rfl (fun _ _ => rfl) (List.Sublist.refl _) (by decide) ?_
  intro depth fields
  have red := fields.required "r" (by simp) (keeps_natural (color.red.toNat_lt : _ < 256) (by decide))
  have green := fields.required "g" (by simp) (keeps_natural (color.green.toNat_lt : _ < 256) (by decide))
  have blue := fields.required "b" (by simp) (keeps_natural (color.blue.toNat_lt : _ < 256) (by decide))
  have alpha := fields.required "a" (by simp) (keeps_real (Binary64.isFinite_of_mem_unit color.alpha_mem))
  have hex : (opened _ depth).optional "hex" Decoder.text = some (some color.hex) :=
    fields.optional "hex" (by simp) (fun _ _ => keeps_text _) fun _ _ => text_ne_null _
  simp only [red, green, blue, alpha, hex, Option.bind_eq_bind, Option.bind_some, Option.pure_def,
    UInt8.ofNat_toNat, rgba_self]

theorem limits (color : Color) : Limits toJson decode color := by
  refine Limits.record rfl (fun _ _ => rfl) (List.Sublist.refl _) (by decide) ?_
  intro depth b distinct read
  simp [text, integer, real, Json.depth]

theorem plain (color : Color) : Plain color.toJson := by
  have channel : ∀ channel : UInt8, Plain (integer channel.toNat) :=
    fun channel => plain_natural (Nat.lt_trans channel.toNat_lt (by decide))
  refine plain_record ?_
  simp only [List.forall_mem_cons]
  exact ⟨channel _, channel _, channel _, plain_real (Binary64.isFinite_of_mem_unit color.alpha_mem), plain_text _,
    List.forall_mem_nil _⟩

end Color

namespace GradientStop

def numbers (stop : GradientStop) : List Binary64 := stop.position :: stop.color.numbers

theorem keeps {stop : GradientStop} (finite : AllFinite stop.numbers) : Keeps toJson decode stop := by
  refine Keeps.record rfl (fun _ _ => rfl) (List.Sublist.refl _) (by decide) ?_
  intro depth fields
  have position := fields.required "position" (by simp) (keeps_real (finite _ List.mem_cons_self))
  have color := fields.required "color" (by simp) stop.color.keeps
  simp only [position, color, Option.bind_eq_bind, Option.bind_some, Option.pure_def]

theorem plain {stop : GradientStop} (finite : AllFinite stop.numbers) : Plain stop.toJson := by
  refine plain_record (List.forall_mem_cons.mpr ⟨plain_real (finite _ List.mem_cons_self), ?_⟩)
  exact List.forall_mem_singleton.mpr stop.color.plain

end GradientStop

namespace Fill

def numbers : Fill → List Binary64
  | .solid color => color.numbers
  | .linear stops => stops.flatMap GradientStop.numbers
  | .radial stops => stops.flatMap GradientStop.numbers
  | .image _ => []

/-- The members of a paint beside its kind. -/
def members : Fill → List (String × Json)
  | .solid color => [("color", color.toJson)]
  | .linear stops => [("stops", .array (stops.map GradientStop.toJson))]
  | .radial stops => [("stops", .array (stops.map GradientStop.toJson))]
  | .image reference => Json.optionalMember "imageRef" .text reference

def kind : Fill → String
  | .solid _ => "solid"
  | .linear _ => "gradient-linear"
  | .radial _ => "gradient-radial"
  | .image _ => "image"

theorem toJson_eq (fill : Fill) : fill.toJson = .record (("type", .text fill.kind) :: fill.members) := by cases fill <;> rfl

private theorem untagged (fill : Fill) : ∀ member ∈ fill.members, member.1 ≠ "type" := by
  cases fill with
  | solid _ | linear _ | radial _ => simp [members]
  | image reference => cases reference <;> simp [members, optionalMember]

/-- A paint is read by its kind, from its other members. -/
theorem decode_object {kind : String} {depth : Nat} {others : List (Option String × Json)}
    (untagged : ∀ member ∈ others, member.1 ≠ some "type")
    (strict : isStrict depth (.object ((some "type", .string (some kind)) :: others)) = true) :
    decode depth (.object ((some "type", .string (some kind)) :: others)) = decodeKind kind depth (.object others) := by
  have tags : others.filter (fun member => member.1 = some "type") = [] := by
    simpa [List.filter_eq_nil_iff] using untagged
  have rest : others.filter (fun member => member.1 ≠ some "type") = others := by
    simpa [List.filter_eq_self] using untagged
  unfold decode
  rw [if_pos strict]
  dsimp only
  rw [List.filter_cons_of_pos (by rfl), tags, List.filter_cons_of_neg (by simp), rest]

private theorem decode_written {fill : Fill} {depth : Nat} (strict : isStrict depth fill.toJson.written = true) :
    decode depth fill.toJson.written = decodeKind fill.kind depth (Json.record fill.members).written := by
  have others : ∀ member ∈ (fill.members.map fun member => (member.1, member.2.written)).map fun member => (some member.1, member.2),
      member.1 ≠ some "type" := by
    rw [List.forall_mem_map, List.forall_mem_map]
    exact fun member inside same => fill.untagged member inside (Option.some.inj same)
  rw [toJson_eq, written_record, Json.record, List.map_cons, written_text, List.map_cons] at strict ⊢
  rw [written_record, Json.record]
  exact decode_object others strict

private theorem strict_of_decode {fill read : Fill} {depth : Nat} (found : decode depth fill.toJson.written = some read) :
    isStrict depth fill.toJson.written = true := by
  unfold decode at found
  split at found
  next strict => exact strict
  next => cases found

theorem limits (fill : Fill) : Limits toJson decode fill := by
  intro depth read found
  rw [← depth_written]
  exact depth_le_of_isStrict (strict_of_decode found)

theorem plain {fill : Fill} (finite : AllFinite fill.numbers) : Plain fill.toJson := by
  have stops : ∀ stops : List GradientStop, AllFinite (stops.flatMap GradientStop.numbers) →
      Plain (.array (stops.map GradientStop.toJson)) := by
    intro stops finite
    refine plain_array (List.forall_mem_map.mpr fun stop member => GradientStop.plain fun x inside => ?_)
    exact finite x (List.mem_flatMap.mpr ⟨stop, member, inside⟩)
  rw [toJson_eq]
  refine plain_record (List.forall_mem_cons.mpr ⟨plain_text _, ?_⟩)
  cases fill with
  | solid color => exact List.forall_mem_singleton.mpr color.plain
  | linear given => exact List.forall_mem_singleton.mpr (stops given finite)
  | radial given => exact List.forall_mem_singleton.mpr (stops given finite)
  | image reference =>
    cases reference with
    | none => exact List.forall_mem_nil _
    | some reference => exact List.forall_mem_singleton.mpr (plain_text reference)

private theorem keeps_stops {stops : List GradientStop} (finite : AllFinite (stops.flatMap GradientStop.numbers)) :
    Keeps (fun stops => .array (stops.map GradientStop.toJson)) (Decoder.list GradientStop.decode) stops :=
  Keeps.list fun stop member => GradientStop.keeps fun x inside => finite x (List.mem_flatMap.mpr ⟨stop, member, inside⟩)

/-- The members of a paint are a record of their own. -/
theorem keeps_members {fill : Fill} (finite : AllFinite fill.numbers) :
    Keeps (fun fill => Json.record fill.members) (decodeKind fill.kind) fill := by
  cases fill with
  | solid color =>
    refine Keeps.record rfl (fun _ _ => rfl) (List.Sublist.refl _) (by decide) ?_
    intro depth fields
    have color := fields.required "color" (by simp [members]) color.keeps
    simp only [color, Option.bind_eq_bind, Option.bind_some, Option.pure_def]
  | linear stops =>
    refine Keeps.record rfl (fun _ _ => rfl) (List.Sublist.refl _) (by decide) ?_
    intro depth fields
    have stops := fields.required "stops" (by simp [members]) (keeps_stops finite)
    simp only [stops, Option.bind_eq_bind, Option.bind_some, Option.pure_def]
  | radial stops =>
    refine Keeps.record rfl (fun _ _ => rfl) (List.Sublist.refl _) (by decide) ?_
    intro depth fields
    have stops := fields.required "stops" (by simp [members]) (keeps_stops finite)
    simp only [stops, Option.bind_eq_bind, Option.bind_some, Option.pure_def]
  | image reference =>
    have known : ((optionalMember "imageRef" text reference).map Prod.fst).Sublist ["imageRef"] := by
      cases reference <;> simp [optionalMember]
    refine Keeps.record rfl (fun _ _ => rfl) known (by decide) ?_
    intro depth fields
    have reference : (opened _ depth).optional "imageRef" Decoder.text = some reference :=
      fields.optional "imageRef" (by cases reference <;> simp [members, optionalMember])
        (fun _ _ => keeps_text _) fun _ _ => text_ne_null _
    simp only [reference, Option.bind_eq_bind, Option.bind_some, Option.pure_def]

theorem keeps {fill : Fill} (finite : AllFinite fill.numbers) : Keeps toJson decode fill := by
  intro depth bound
  have strict := plain finite depth bound
  have inner : (Json.record fill.members).depth ≤ depth := by
    rw [toJson_eq, depth_record_le, List.forall_mem_cons] at bound
    exact depth_record_le.mpr ⟨bound.1, bound.2.2⟩
  rw [decode_written strict]
  exact keeps_members finite depth inner

end Fill

namespace Border

def numbers (border : Border) : List Binary64 := border.width :: border.color.numbers

theorem keeps {border : Border} (finite : AllFinite border.numbers) : Keeps toJson decode border := by
  refine Keeps.record rfl (fun _ _ => rfl) (List.Sublist.refl _) (by decide) ?_
  intro depth fields
  have color := fields.required "color" (by simp) border.color.keeps
  have width := fields.required "width" (by simp) (keeps_real (finite _ List.mem_cons_self))
  have style := fields.required "style" (by simp) (keeps_named border.style)
  simp only [color, width, style, Option.bind_eq_bind, Option.bind_some, Option.pure_def]

theorem limits (border : Border) : Limits toJson decode border := by
  refine Limits.record rfl (fun _ _ => rfl) (List.Sublist.refl _) (by decide) ?_
  intro depth b distinct read
  simp only [Option.bind_eq_bind, Option.bind_eq_some_iff] at read
  obtain ⟨_, color, _⟩ := read
  have inner := border.color.limits.required distinct (by simp) color
  simpa [Named.toJson, text, real, Json.depth] using inner

end Border

namespace Shadow

def numbers (shadow : Shadow) : List Binary64 :=
  [shadow.offsetX, shadow.offsetY, shadow.blur, shadow.spread] ++ shadow.color.numbers

theorem keeps {shadow : Shadow} (finite : AllFinite shadow.numbers) : Keeps toJson decode shadow := by
  simp only [AllFinite, numbers, List.forall_mem_append, List.forall_mem_cons] at finite
  obtain ⟨⟨offsetX, offsetY, blur, spread, -⟩, -⟩ := finite
  refine Keeps.record rfl (fun _ _ => rfl) (List.Sublist.refl _) (by decide) ?_
  intro depth fields
  have kind := fields.required "kind" (by simp) (keeps_named shadow.kind)
  have color := fields.required "color" (by simp) shadow.color.keeps
  have offsetX := fields.required "offsetX" (by simp) (keeps_real offsetX)
  have offsetY := fields.required "offsetY" (by simp) (keeps_real offsetY)
  have blur := fields.required "blur" (by simp) (keeps_real blur)
  have spread := fields.required "spread" (by simp) (keeps_real spread)
  simp only [kind, color, offsetX, offsetY, blur, spread, Option.bind_eq_bind, Option.bind_some, Option.pure_def]

theorem limits (shadow : Shadow) : Limits toJson decode shadow := by
  refine Limits.record rfl (fun _ _ => rfl) (List.Sublist.refl _) (by decide) ?_
  intro depth b distinct read
  simp only [Option.bind_eq_bind, Option.bind_eq_some_iff] at read
  obtain ⟨_, _, _, color, _⟩ := read
  have inner := shadow.color.limits.required distinct (by simp) color
  simpa [Named.toJson, text, real, Json.depth] using inner

end Shadow

namespace CornerRadii

def numbers (radii : CornerRadii) : List Binary64 := [radii.topLeft, radii.topRight, radii.bottomRight, radii.bottomLeft]

theorem keeps {radii : CornerRadii} (finite : AllFinite radii.numbers) : Keeps toJson decode radii := by
  simp only [AllFinite, numbers, List.forall_mem_cons] at finite
  obtain ⟨topLeft, topRight, bottomRight, bottomLeft, -⟩ := finite
  refine Keeps.record rfl (fun _ _ => rfl) (List.Sublist.refl _) (by decide) ?_
  intro depth fields
  have topLeft := fields.required "topLeft" (by simp) (keeps_real topLeft)
  have topRight := fields.required "topRight" (by simp) (keeps_real topRight)
  have bottomRight := fields.required "bottomRight" (by simp) (keeps_real bottomRight)
  have bottomLeft := fields.required "bottomLeft" (by simp) (keeps_real bottomLeft)
  simp only [topLeft, topRight, bottomRight, bottomLeft, Option.bind_eq_bind, Option.bind_some, Option.pure_def]

theorem limits (radii : CornerRadii) : Limits toJson decode radii := by
  refine Limits.record rfl (fun _ _ => rfl) (List.Sublist.refl _) (by decide) ?_
  intro depth b distinct read
  simp [real, Json.depth]

end CornerRadii

namespace TextStyle

def numbers (style : TextStyle) : List Binary64 := [style.fontSize, style.lineHeight, style.letterSpacing]

theorem keeps {style : TextStyle} (finite : AllFinite style.numbers) : Keeps toJson decode style := by
  simp only [AllFinite, numbers, List.forall_mem_cons] at finite
  obtain ⟨fontSize, lineHeight, letterSpacing, -⟩ := finite
  refine Keeps.record rfl (fun _ _ => rfl) (List.Sublist.refl _) (by decide) ?_
  intro depth fields
  have fontFamily := fields.required "fontFamily" (by simp) (keeps_text style.fontFamily)
  have fontWeight := fields.required "fontWeight" (by simp)
    (keeps_natural (style.fontWeight.toNat_lt : _ < UInt16.size) (by decide))
  have fontSize := fields.required "fontSize" (by simp) (keeps_real fontSize)
  have lineHeight := fields.required "lineHeight" (by simp) (keeps_real lineHeight)
  have letterSpacing := fields.required "letterSpacing" (by simp) (keeps_real letterSpacing)
  have textAlign : (opened _ depth).defaulted "textAlign" .left Named.decode = some style.textAlign :=
    fields.defaulted "textAlign" (by simp) (keeps_named style.textAlign)
  have textTransform : (opened _ depth).defaulted "textTransform" .none Named.decode = some style.textTransform :=
    fields.defaulted "textTransform" (by simp) (keeps_named style.textTransform)
  have textDecoration : (opened _ depth).defaulted "textDecoration" .none Named.decode = some style.textDecoration :=
    fields.defaulted "textDecoration" (by simp) (keeps_named style.textDecoration)
  have italic : (opened _ depth).defaulted "italic" false Decoder.bool = some style.italic :=
    fields.defaulted "italic" (by simp) (keeps_bool style.italic)
  simp only [fontFamily, fontWeight, fontSize, lineHeight, letterSpacing, textAlign, textTransform,
    textDecoration, italic,
    Option.bind_eq_bind, Option.bind_some, Option.pure_def, UInt16.ofNat_toNat]

theorem limits (style : TextStyle) : Limits toJson decode style := by
  refine Limits.record rfl (fun _ _ => rfl) (List.Sublist.refl _) (by decide) ?_
  intro depth b distinct read
  simp [Named.toJson, text, integer, real, Json.depth]

end TextStyle

end Handoff
