import Handoff.Proofs.StyleCodec

/-! Layouts and sizes are saved without loss. Bounds that a layer leaves open are left out
of the text and come back as none. -/

namespace Handoff
open Json

namespace Padding

def numbers (padding : Padding) : List Binary64 := [padding.top, padding.right, padding.bottom, padding.left]

theorem keeps {padding : Padding} (finite : AllFinite padding.numbers) : Keeps toJson decode padding := by
  simp only [AllFinite, numbers, List.forall_mem_cons] at finite
  obtain ⟨top, right, bottom, left, -⟩ := finite
  refine Keeps.record rfl (fun _ _ => rfl) (List.Sublist.refl _) (by decide) ?_
  intro depth fields
  have top := fields.required "top" (by simp) (keeps_real top)
  have right := fields.required "right" (by simp) (keeps_real right)
  have bottom := fields.required "bottom" (by simp) (keeps_real bottom)
  have left := fields.required "left" (by simp) (keeps_real left)
  simp only [top, right, bottom, left, Option.bind_eq_bind, Option.bind_some, Option.pure_def]

theorem limits (padding : Padding) : Limits toJson decode padding := by
  refine Limits.record rfl (fun _ _ => rfl) (List.Sublist.refl _) (by decide) ?_
  intro depth b distinct read
  simp [real, Json.depth]

end Padding

namespace Layout

def numbers (layout : Layout) : List Binary64 := layout.gap :: layout.padding.numbers

theorem keeps {layout : Layout} (finite : AllFinite layout.numbers) : Keeps toJson decode layout := by
  obtain ⟨gap, padding⟩ := List.forall_mem_cons.mp finite
  refine Keeps.record rfl (fun _ _ => rfl) (List.Sublist.refl _) (by decide) ?_
  intro depth fields
  have direction := fields.required "direction" (by simp) (keeps_named layout.direction)
  have alignItems := fields.required "alignItems" (by simp) (keeps_named layout.alignItems)
  have justifyContent := fields.required "justifyContent" (by simp) (keeps_named layout.justifyContent)
  have gap := fields.required "gap" (by simp) (keeps_real gap)
  have padding := fields.required "padding" (by simp) (Padding.keeps padding)
  have wrap := fields.required "wrap" (by simp) (keeps_bool layout.wrap)
  simp only [direction, alignItems, justifyContent, gap, padding, wrap, Option.bind_eq_bind,
    Option.bind_some, Option.pure_def]

theorem limits (layout : Layout) : Limits toJson decode layout := by
  refine Limits.record rfl (fun _ _ => rfl) (List.Sublist.refl _) (by decide) ?_
  intro depth b distinct read
  simp only [Option.bind_eq_bind, Option.bind_eq_some_iff] at read
  obtain ⟨_, _, _, _, _, _, _, _, _, padding, _⟩ := read
  have inner := layout.padding.limits.required distinct (by simp) padding
  simpa [Named.toJson, text, real, Json.depth] using inner

end Layout

namespace Size

def numbers : Size → List Binary64
  | .fixed pixels => [pixels]
  | _ => []

theorem keeps {size : Size} (finite : AllFinite size.numbers) : Keeps toJson decode size := by
  intro depth bound
  cases size with
  | fixed pixels =>
    have finite := finite pixels List.mem_cons_self
    obtain ⟨n, rfl⟩ := Nat.exists_eq_add_of_le' (depth_record_le.mp bound).1
    rw [toJson, written_record]
    have read := keeps_real finite n (Nat.zero_le _)
    exact congrArg (Option.map Size.fixed) read
  | auto => rw [toJson, written_text]; cases depth <;> rfl
  | fill => rw [toJson, written_text]; cases depth <;> rfl

theorem limits (size : Size) : Limits toJson decode size := by
  cases size with
  | fixed pixels =>
    intro depth b read
    cases depth with
    | zero =>
      rw [toJson, written_record, record] at read
      simp [decode, Decoder.caseName] at read
    | succ n => exact depth_record_le.mpr ⟨Nat.succ_pos n, by simp [real, Json.depth]⟩
  | auto => exact limits_of_depth rfl
  | fill => exact limits_of_depth rfl

end Size

theorem Json.mem_optionalMember {α : Type} {name : String} {encode : α → Json} {value : Option α}
    {member : String × Json} :
    member ∈ optionalMember name encode value ↔ ∃ a, value = some a ∧ member = (name, encode a) := by
  cases value <;> simp [optionalMember]

theorem Json.forall_mem_optionalMember {α : Type} {name : String} {encode : α → Json} {value : Option α}
    {p : String × Json → Prop} :
    (∀ member ∈ optionalMember name encode value, p member) ↔ ∀ a ∈ value, p (name, encode a) := by
  cases value <;> simp [optionalMember]

theorem Json.sublist_optionalMember {α : Type} (name : String) (encode : α → Json) (value : Option α) :
    ((optionalMember name encode value).map Prod.fst).Sublist [name] := by
  cases value <;> simp [optionalMember]

namespace Dimensions

def numbers (dimensions : Dimensions) : List Binary64 :=
  dimensions.width.numbers ++ dimensions.height.numbers
    ++ [dimensions.minWidth, dimensions.maxWidth, dimensions.minHeight, dimensions.maxHeight].flatMap Option.toList

theorem known (dimensions : Dimensions) :
    ((([("width", dimensions.width.toJson), ("height", dimensions.height.toJson)]
      ++ optionalMember "minWidth" .real dimensions.minWidth ++ optionalMember "maxWidth" .real dimensions.maxWidth
      ++ optionalMember "minHeight" .real dimensions.minHeight ++ optionalMember "maxHeight" .real dimensions.maxHeight)).map
      Prod.fst).Sublist ["width", "height", "minWidth", "maxWidth", "minHeight", "maxHeight"] := by
  simp only [List.map_append]
  exact ((((List.Sublist.refl _).append (sublist_optionalMember ..)).append (sublist_optionalMember ..)).append
    (sublist_optionalMember ..)).append (sublist_optionalMember ..)

theorem keeps {dimensions : Dimensions} (finite : AllFinite dimensions.numbers) : Keeps toJson decode dimensions := by
  simp only [AllFinite, numbers, List.forall_mem_append, List.flatMap_cons, List.flatMap_nil, List.append_nil,
    Option.mem_toList] at finite
  obtain ⟨⟨width, height⟩, minWidth, maxWidth, minHeight, maxHeight⟩ := finite
  refine Keeps.record rfl (fun _ _ => rfl) dimensions.known (by decide) ?_
  intro depth fields
  have width := fields.required "width" (by simp) (Size.keeps width)
  have height := fields.required "height" (by simp) (Size.keeps height)
  have minWidth : (opened _ depth).optional "minWidth" Decoder.binary64 = some dimensions.minWidth :=
    fields.optional "minWidth" (by simp [mem_optionalMember]) (fun x member => keeps_real (minWidth x member))
      fun x member => real_ne_null (minWidth x member)
  have maxWidth : (opened _ depth).optional "maxWidth" Decoder.binary64 = some dimensions.maxWidth :=
    fields.optional "maxWidth" (by simp [mem_optionalMember]) (fun x member => keeps_real (maxWidth x member))
      fun x member => real_ne_null (maxWidth x member)
  have minHeight : (opened _ depth).optional "minHeight" Decoder.binary64 = some dimensions.minHeight :=
    fields.optional "minHeight" (by simp [mem_optionalMember]) (fun x member => keeps_real (minHeight x member))
      fun x member => real_ne_null (minHeight x member)
  have maxHeight : (opened _ depth).optional "maxHeight" Decoder.binary64 = some dimensions.maxHeight :=
    fields.optional "maxHeight" (by simp [mem_optionalMember]) (fun x member => keeps_real (maxHeight x member))
      fun x member => real_ne_null (maxHeight x member)
  simp only [width, height, minWidth, maxWidth, minHeight, maxHeight, Option.bind_eq_bind,
    Option.bind_some, Option.pure_def]

theorem limits (dimensions : Dimensions) : Limits toJson decode dimensions := by
  refine Limits.record rfl (fun _ _ => rfl) dimensions.known (by decide) ?_
  intro depth b distinct read
  simp only [Option.bind_eq_bind, Option.bind_eq_some_iff] at read
  obtain ⟨_, width, _, height, _⟩ := read
  have width := dimensions.width.limits.required distinct (by simp) width
  have height := dimensions.height.limits.required distinct (by simp) height
  have bound : ∀ value : Option Binary64, ∀ x ∈ value, (real x).depth ≤ depth := fun _ _ _ => Nat.zero_le _
  simp only [List.forall_mem_append, List.forall_mem_cons, forall_mem_optionalMember]
  exact ⟨⟨⟨⟨⟨width, height, List.forall_mem_nil _⟩, bound _⟩, bound _⟩, bound _⟩, bound _⟩

end Dimensions

end Handoff
