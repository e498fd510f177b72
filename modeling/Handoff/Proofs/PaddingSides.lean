import Handoff.Classes.Spacing
import Handoff.Proofs.RoundedNumbers
import Mathlib.Data.List.Nodup

/-! Padding by sides. However the classes of a padding are shortened, each side that has padding is
covered by exactly one of them, and the step of that class stands for what is on the side in
whole pixels; a side without padding is not covered. -/

namespace Handoff

inductive Side where
  | top
  | right
  | bottom
  | left
  deriving DecidableEq

/-- What is on a side. -/
def Padding.on (padding : Padding) : Side → Binary64
  | .top => padding.top
  | .right => padding.right
  | .bottom => padding.bottom
  | .left => padding.left

namespace Classes
open Binary64

/-! Steps -/

/-- The numbers of pixels that a step of spacing stands for: the one that the scale gives it, or
the one that is written in it. -/
inductive StandsFor : String → Int → Prop
  | scaled {pixels : Int} {step : String} (listed : (pixels, step) ∈ spacingScale) : StandsFor step pixels
  | written (pixels : Int) : StandsFor ("[" ++ toString pixels ++ "px]") pixels

/-- A whole number is read off its digits, and only those below zero have a sign. -/
private theorem toString_injective {m n : Int} (same : toString m = toString n) : m = n := by
  have value (k : Nat) : Nat.ofDigitChars 10 (toString k).toList 0 = k := by
    rw [Nat.toString_eq_ofList_toDigits, String.toList_ofList, Nat.ofDigitChars_ten_toDigits]
  have unsigned (k l : Nat) : toString k ≠ "-" ++ toString l := by
    intro spelled
    have sign : '-' ∈ Nat.toDigits 10 k := by
      rw [← String.toList_ofList (l := Nat.toDigits 10 k), ← Nat.toString_eq_ofList_toDigits, spelled]
      simp
    exact absurd (Nat.isDigit_of_mem_toDigits (by decide) (by decide) sign) (by decide)
  cases m with
  | ofNat m =>
    cases n with
    | ofNat n =>
      have digits : toString m = toString n := same
      have equal : m = n := by rw [← value m, digits, value]
      exact congrArg Int.ofNat equal
    | negSucc n => exact absurd same (unsigned m (n + 1))
  | negSucc m =>
    cases n with
    | ofNat n => exact absurd same.symm (unsigned n (m + 1))
    | negSucc n =>
      have digits : toString (m + 1) = toString (n + 1) := (String.append_right_inj "-").mp same
      have next : m + 1 = n + 1 := by rw [← value (m + 1), digits, value]
      exact congrArg Int.negSucc (Nat.succ.inj next)

private theorem standsFor_spacingStep_iff {pixels other : Int} : StandsFor (spacingStep pixels) other ↔ other = pixels := by
  have distinct : (spacingScale.map Prod.snd).Nodup := by decide
  have unbracketed : ∀ entry ∈ spacingScale, entry.2.toList.head? ≠ some '[' := by decide
  have bracketed : ∀ n : Int, ("[" ++ toString n ++ "px]").toList.head? = some '[' := fun n => by simp
  unfold spacingStep
  split
  next known step found =>
    have listed := List.mem_of_find?_eq_some found
    have same : known = pixels := by simpa using List.find?_some found
    constructor
    · intro stands
      generalize spelled : step = text at stands
      cases stands with
      | scaled also => exact (congrArg Prod.fst (List.inj_on_of_nodup_map distinct also listed spelled.symm)).trans same
      | written => exact absurd (spelled ▸ bracketed other) (unbracketed _ listed)
    · rintro rfl
      exact .scaled (same ▸ listed)
  next unknown =>
    constructor
    · intro stands
      generalize spelled : "[" ++ toString pixels ++ "px]" = text at stands
      cases stands with
      | scaled listed => exact absurd (spelled ▸ bracketed pixels) (unbracketed _ listed)
      | written =>
        have inner := (String.append_left_inj _).mp spelled
        exact (toString_injective ((String.append_right_inj _).mp inner)).symm
    · rintro rfl
      exact .written _

/-! Classes of padding, read -/

/-- The sides that are covered by what stands before a step. -/
def coveredSides? : List Char → Option (List Side)
  | ['p'] => some [.top, .right, .bottom, .left]
  | ['p', 'x'] => some [.right, .left]
  | ['p', 'y'] => some [.top, .bottom]
  | ['p', 't'] => some [.top]
  | ['p', 'r'] => some [.right]
  | ['p', 'b'] => some [.bottom]
  | ['p', 'l'] => some [.left]
  | _ => none

/-- The sides that a class of padding covers, and its step. -/
def readPadding? (cls : String) : Option (List Side × String) :=
  (coveredSides? (cls.toList.takeWhile (· != '-'))).map
    fun sides => (sides, String.ofList ((cls.toList.dropWhile (· != '-')).drop 1))

/-- The steps of the classes that cover a side, each as often as it is given. -/
def stepsOn (side : Side) (classes : List String) : List String :=
  classes.filterMap fun cls => (readPadding? cls).bind fun (sides, step) => if side ∈ sides then some step else none

/-- What a class begins with that covers some sides. -/
def Covers (stem : String) (sides : List Side) : Prop :=
  ∃ name : String, stem = name ++ "-" ∧ '-' ∉ name.toList ∧ coveredSides? name.toList = some sides

theorem covers_all : Covers "p-" [.top, .right, .bottom, .left] := ⟨"p", rfl, by decide, rfl⟩

theorem covers_columns : Covers "px-" [.right, .left] := ⟨"px", rfl, by decide, rfl⟩

theorem covers_rows : Covers "py-" [.top, .bottom] := ⟨"py", rfl, by decide, rfl⟩

def sideStem : Side → String
  | .top => "pt-"
  | .right => "pr-"
  | .bottom => "pb-"
  | .left => "pl-"

theorem covers_side (side : Side) : Covers (sideStem side) [side] := by
  cases side with
  | top => exact ⟨"pt", rfl, by decide, rfl⟩
  | right => exact ⟨"pr", rfl, by decide, rfl⟩
  | bottom => exact ⟨"pb", rfl, by decide, rfl⟩
  | left => exact ⟨"pl", rfl, by decide, rfl⟩

section

variable {side : Side} {stem : String} {sides : List Side} (covers : Covers stem sides)
include covers

theorem readPadding?_append (step : String) : readPadding? (stem ++ step) = some (sides, step) := by
  obtain ⟨name, rfl, whole, known⟩ := covers
  have inside : ∀ c ∈ name.toList, (c != '-') = true := fun c member => bne_iff_ne.mpr fun same => whole (same ▸ member)
  have spelled : (name ++ "-" ++ step).toList = name.toList ++ '-' :: step.toList := by simp
  rw [readPadding?, spelled, List.takeWhile_append_of_pos inside, List.dropWhile_append_of_pos inside]
  simp [known]

theorem stepsOn_cons (step : String) (classes : List String) :
    stepsOn side ((stem ++ step) :: classes) = (if side ∈ sides then [step] else []) ++ stepsOn side classes := by
  rw [stepsOn, List.filterMap_cons, readPadding?_append covers]
  by_cases covered : side ∈ sides <;> simp [covered, stepsOn]

end

variable (padding : Padding)

/-- A class for each of some sides that has padding. -/
def sideClasses (sides : List Side) : List String :=
  (sides.filter fun side => 0 < padding.on side).map fun side => sideStem side ++ spacing (padding.on side)

private theorem stepsOn_sideClasses (side : Side) {sides : List Side} (distinct : sides.Nodup) :
    stepsOn side (sideClasses padding sides) = if side ∈ sides ∧ 0 < padding.on side then [spacing (padding.on side)] else [] := by
  induction sides with
  | nil => rfl
  | cons first rest ih =>
    obtain ⟨fresh, distinct⟩ := List.nodup_cons.mp distinct
    have later := ih distinct
    rw [sideClasses, List.filter_cons]
    split
    next positive =>
      rw [List.map_cons, stepsOn_cons (covers_side first), ← sideClasses, later]
      by_cases same : side = first
      · subst same
        simp [fresh, of_decide_eq_true positive]
      · simp [same]
    next none =>
      rw [← sideClasses, later]
      by_cases same : side = first
      · subst same
        simp [fresh, of_decide_eq_false (by simpa using none)]
      · simp [same]

/-- The forms that the classes of a padding can have. -/
inductive HasForm : List String → Prop
  | none (empty : ∀ side, ¬0 < padding.on side) : HasForm []
  | whole {value : Binary64} (positive : 0 < value) (same : ∀ side, padding.on side = value) : HasForm ["p-" ++ spacing value]
  | axes {across down : Binary64} (positive : 0 < across) (positiveToo : 0 < down)
    (columns : padding.left = across ∧ padding.right = across) (rows : padding.top = down ∧ padding.bottom = down) :
    HasForm ["px-" ++ spacing across, "py-" ++ spacing down]
  | sides : HasForm (sideClasses padding [.top, .right, .bottom, .left])

private theorem hasForm_paddingClasses : HasForm padding (paddingClasses padding) := by
  unfold paddingClasses
  split
  next zero =>
    simp only [Padding.isZero, Bool.and_eq_true] at zero
    obtain ⟨⟨⟨top, right⟩, bottom⟩, left⟩ := zero
    apply HasForm.none
    intro side
    cases side with
    | top => exact not_positive_of_zero top
    | right => exact not_positive_of_zero right
    | bottom => exact not_positive_of_zero bottom
    | left => exact not_positive_of_zero left
  split
  next same =>
    simp only [Bool.and_eq_true, decide_eq_true_eq] at same
    obtain ⟨⟨⟨first, second⟩, third⟩, positive⟩ := same
    have right := eq_of_equals first positive
    have bottom := eq_of_equals second (right ▸ positive)
    have left := eq_of_equals third (bottom ▸ right ▸ positive)
    apply HasForm.whole positive
    intro side
    cases side with
    | top => rfl
    | right => exact right.symm
    | bottom => exact (right.trans bottom).symm
    | left => exact (right.trans (bottom.trans left)).symm
  split
  next same =>
    simp only [Bool.and_eq_true, decide_eq_true_eq] at same
    obtain ⟨⟨⟨vertical, top⟩, horizontal⟩, left⟩ := same
    exact .axes left top ⟨rfl, (eq_of_equals horizontal left).symm⟩ ⟨rfl, (eq_of_equals vertical top).symm⟩
  next =>
    have sides : [("pt-", padding.top), ("pr-", padding.right), ("pb-", padding.bottom), ("pl-", padding.left)] =
        [Side.top, .right, .bottom, .left].map fun side => (sideStem side, padding.on side) := rfl
    dsimp only
    rw [sides, List.filter_map, List.map_map]
    exact .sides

private theorem stepsOn_of_hasForm {classes : List String} (form : HasForm padding classes) (side : Side) :
    stepsOn side classes = if 0 < padding.on side then [spacing (padding.on side)] else [] := by
  cases form with
  | none empty => exact (if_neg (empty side)).symm
  | @whole value positive same =>
    rw [stepsOn_cons covers_all, same side, if_pos positive]
    cases side <;> rfl
  | @axes across down positive positiveToo columns rows =>
    rw [stepsOn_cons covers_columns, stepsOn_cons covers_rows]
    cases side <;> simp [Padding.on, stepsOn, columns, rows, positive, positiveToo]
  | sides =>
    rw [stepsOn_sideClasses padding side (by decide)]
    cases side <;> simp

private theorem isSome_readPadding?_of_hasForm {classes : List String} (form : HasForm padding classes) :
    ∀ cls ∈ classes, (readPadding? cls).isSome = true := by
  cases form with
  | none => exact List.forall_mem_nil _
  | whole => simp [readPadding?_append covers_all]
  | axes => simp [readPadding?_append covers_columns, readPadding?_append covers_rows]
  | sides =>
    intro cls listed
    obtain ⟨side, -, rfl⟩ := List.mem_map.mp listed
    rw [readPadding?_append (covers_side side), Option.isSome_some]

private theorem standsFor_spacing_iff {value : Binary64} (number : value ≠ .nan) {pixels : Int} :
    StandsFor (spacing value) pixels ↔ RoundsWithin (-2 ^ 63) (2 ^ 63 - 1) value pixels := by
  rw [spacing, standsFor_spacingStep_iff, roundsWithin_iff (by decide) (by decide) (by decide) number]
  rfl

/-- A side that has padding is covered by one class, whose step stands for the padding in whole
pixels, a half going away from zero; a side without padding is covered by none. -/
theorem paddingClasses_cover (padding : Padding) :
    (∀ cls ∈ paddingClasses padding, (readPadding? cls).isSome = true) ∧
    ∀ side : Side,
      (0 < padding.on side → stepsOn side (paddingClasses padding) = [spacing (padding.on side)] ∧
        ∀ pixels, StandsFor (spacing (padding.on side)) pixels ↔ RoundsWithin (-2 ^ 63) (2 ^ 63 - 1) (padding.on side) pixels) ∧
      (¬0 < padding.on side → stepsOn side (paddingClasses padding) = []) := by
  have form := hasForm_paddingClasses padding
  refine ⟨isSome_readPadding?_of_hasForm padding form, ?_⟩
  intro side
  have steps := stepsOn_of_hasForm padding form side
  constructor
  · intro positive
    have number : padding.on side ≠ .nan := by
      intro none
      rw [none] at positive
      cases positive
    rw [if_pos positive] at steps
    exact ⟨steps, fun pixels => standsFor_spacing_iff number⟩
  · intro none
    rw [if_neg none] at steps
    exact steps

end Classes

end Handoff
