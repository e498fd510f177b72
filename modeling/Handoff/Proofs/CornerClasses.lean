import Handoff.Classes.Surface
import Handoff.Proofs.NearestColors
import Handoff.Proofs.RoundedNumbers

/-! Classes of corners. Corners that are alike share one class, the name of the first of the steps
that are nearest to the radius, unless even that is too far. Corners that differ have a class
each. Distances are rounded, but what rounding changes is never what decides. -/

namespace Handoff

inductive Corner where
  | topLeft
  | topRight
  | bottomRight
  | bottomLeft
  deriving DecidableEq

def CornerRadii.on (radii : CornerRadii) : Corner → Binary64
  | .topLeft => radii.topLeft
  | .topRight => radii.topRight
  | .bottomRight => radii.bottomRight
  | .bottomLeft => radii.bottomLeft

namespace Corner

/-- All corners, clockwise from the top left. -/
def clockwise : List Corner := [.topLeft, .topRight, .bottomRight, .bottomLeft]

def tag : Corner → String
  | .topLeft => "tl"
  | .topRight => "tr"
  | .bottomRight => "br"
  | .bottomLeft => "bl"

/-- What the classes of a corner begin with. -/
def stem (corner : Corner) : String := "rounded-" ++ corner.tag ++ "-"

/-- The corner that a class is for, if it is not for all of them. -/
def ofClass? (cls : String) : Option Corner := clockwise.find? fun corner => corner.stem.toList.isPrefixOf cls.toList

private theorem ofClass?_stem_append (corner : Corner) (rest : String) : ofClass? (corner.stem ++ rest) = some corner := by
  cases corner <;> simp [ofClass?, clockwise, stem, tag, String.toList_append]

end Corner

private theorem CornerRadii.isUniform_iff {radii : CornerRadii} :
    radii.isUniform = true ↔ ∃ radius, ∀ corner, (radii.on corner).equals radius = true := by
  simp only [isUniform, Bool.and_eq_true, Binary64.equals_iff]
  constructor
  · intro same
    obtain ⟨⟨⟨place, topLeft, topRight⟩, ⟨_, topRightToo, bottomRight⟩⟩, ⟨_, bottomRightToo, bottomLeft⟩⟩ := same
    cases topRight.symm.trans topRightToo
    cases bottomRight.symm.trans bottomRightToo
    refine ⟨radii.topLeft, ?_⟩
    intro corner
    refine ⟨place, ?_, topLeft⟩
    cases corner with
    | topLeft => exact topLeft
    | topRight => exact topRight
    | bottomRight => exact bottomRight
    | bottomLeft => exact bottomLeft
  · intro uniform
    obtain ⟨radius, alike⟩ := uniform
    have place : ∃ place, radius.position = some place := (alike .topLeft).imp fun _ both => both.2
    obtain ⟨place, stands⟩ := place
    have same : ∀ corner, (radii.on corner).position = some place := by
      intro corner
      obtain ⟨_, first, second⟩ := alike corner
      rw [first, ← second, stands]
    exact ⟨⟨⟨place, same .topLeft, same .topRight⟩, ⟨place, same .topRight, same .bottomRight⟩⟩,
      ⟨place, same .bottomRight, same .bottomLeft⟩⟩

/-- Where rounding keeps a distance, or leaves it out of reach, what is nearest stays so. -/
theorem IsFirstLeast.of_kept {α : Type} {reach : Nat} {exact rounded : α → Nat} {entries : List α} {entry : α}
    (least : IsFirstLeast exact entries entry) (near : exact entry ≤ reach)
    (kept : ∀ other ∈ entries, rounded other = exact other ∨ reach < exact other ∧ reach < rounded other) :
    IsFirstLeast rounded entries entry ∧ rounded entry ≤ reach := by
  have same := (kept entry least.mem).resolve_right fun far => absurd near (Nat.not_le.mpr far.1)
  obtain ⟨before, behind, rfl, less, no⟩ := least
  rw [same]
  refine ⟨⟨before, behind, rfl, ?_, ?_⟩, near⟩
  · intro other member
    have apart := less other member
    cases kept other (by simp [member]) with
    | inl sameToo => rwa [same, sameToo]
    | inr far => omega
  · intro other member
    have apart := no other member
    cases kept other (by simp [member]) with
    | inl sameToo => rwa [same, sameToo]
    | inr far => omega

namespace Classes
open Binary64

/-- The name of a step is for all corners, and so is what is written with brackets. -/
theorem ofClass?_of_mem_radiusScale : ∀ step ∈ radiusScale, Corner.ofClass? step.2 = none := by
  decide +kernel

private theorem ofClass?_literal (text : String) : Corner.ofClass? ("rounded-[" ++ text) = none := by
  simp [Corner.ofClass?, Corner.clockwise, Corner.stem, Corner.tag, String.toList_append]

/-! The nearest step -/

/-- Steps are whole numbers within bounds. -/
theorem exists_of_mem_steps {steps : List (Binary64 × String)} {numbers : List Nat} {low high : Nat}
    (spelled : steps.map Prod.fst = numbers.map ofNat) (within : ∀ n ∈ numbers, low ≤ n ∧ n ≤ high) (small : high < 1 <<< 53)
    {step : Binary64 × String} (listed : step ∈ steps) :
    ∃ named : Magnitude, step.1 = .finite false named ∧ low * one ≤ named.units ∧ named.units ≤ high * one := by
  obtain ⟨n, member, same⟩ := List.mem_map.mp (spelled ▸ List.mem_map_of_mem listed)
  obtain ⟨above, below⟩ := within n member
  obtain ⟨named, units, value⟩ := ofNat_eq (Nat.lt_of_le_of_lt below small)
  refine ⟨named, same.symm.trans value, ?_, ?_⟩
  · rw [units]
    exact Nat.mul_le_mul_right one above
  · rw [units]
    exact Nat.mul_le_mul_right one below

theorem exists_of_mem_radiusScale {step : Binary64 × String} (listed : step ∈ radiusScale) :
    ∃ named : Magnitude, step.1 = .finite false named ∧ 2 * one ≤ named.units ∧ named.units ≤ 9999 * one := by
  have spelled : radiusScale.map Prod.fst = [2, 4, 6, 8, 12, 16, 24, 9999].map ofNat := by decide +kernel
  exact exists_of_mem_steps spelled (by decide) (by decide) listed

/-- How far a step is from a radius, in units. -/
def stepGap (radius : Binary64) (step : Binary64 × String) : Nat := apart step.1 radius

/-- How a radius is written that is not called by a step. -/
def literalRadius (radius : Binary64) : String := "rounded-[" ++ quantity radius ++ "px]"

/-- The class for all corners when the step that is nearest to their radius is known. -/
def calledBy (radius : Binary64) (step : Binary64 × String) : String :=
  if stepGap radius step ≤ 2 * one then step.2 else literalRadius radius

section

variable {radius : Binary64} {rounded : Binary64 × String → Nat}
  (computed : ∀ step ∈ radiusScale, (step.1 - radius).abs.position = some (rounded step : Int))
include computed

theorem uniformRadiusClass_of_least {step : Binary64 × String} (least : IsFirstLeast rounded radiusScale step) :
    uniformRadiusClass radius = if rounded step ≤ 2 * one then step.2 else literalRadius radius := by
  have scanned : radiusScale.foldl (nearerRadius radius) none = some ((step.1 - radius).abs, step.2) := by
    apply least.foldl_eq
    · intro _ _
      rfl
    · intro best listed step listedToo
      simp only [nearerRadius, le_iff_of_position (computed best listed) (computed step listedToo), Int.ofNat_le]
      split <;> rfl
  have tolerance : radiusTolerance.position = some ((2 * one : Nat) : Int) := @position_ofNat 2 (by decide)
  unfold uniformRadiusClass
  rw [scanned]
  simp only [le_iff_of_position (computed step least.mem) tolerance, Int.ofNat_le, literalRadius]

theorem uniformRadiusClass_of_kept {step : Binary64 × String} (least : IsFirstLeast (stepGap radius) radiusScale step)
    (kept : ∀ other ∈ radiusScale, rounded other = stepGap radius other ∨
      2 * one < stepGap radius other ∧ 2 * one < rounded other) : uniformRadiusClass radius = calledBy radius step := by
  unfold calledBy
  split
  next near =>
    obtain ⟨leastToo, nearToo⟩ := least.of_kept near kept
    rw [uniformRadiusClass_of_least computed leastToo, if_pos nearToo]
  next far =>
    have some : ∃ found, IsFirstLeast rounded radiusScale found := exists_isFirstLeast (by decide)
    obtain ⟨found, leastToo⟩ := some
    have beyond := least.le found leastToo.mem
    have farToo : ¬rounded found ≤ 2 * one := by
      cases kept found leastToo.mem with
      | inl same => omega
      | inr outside => omega
    rw [uniformRadiusClass_of_least computed leastToo, if_neg farToo]

end

/-- The computed distance of a step from a finite radius. -/
theorem position_step_sub (m : Magnitude) :
    ∀ step ∈ radiusScale, (step.1 - finite false m).abs.position = some (nearest (stepGap (finite false m) step) 1 : Int) := by
  intro step listed
  obtain ⟨named, same, -, -⟩ := exists_of_mem_radiusScale listed
  rw [stepGap, same]
  exact position_abs_sub named m

/-- No step is within reach of an infinite radius. -/
theorem uniformRadiusClass_infinite {step : Binary64 × String} (least : IsFirstLeast (stepGap (.infinite false)) radiusScale step) :
    uniformRadiusClass (.infinite false) = calledBy (.infinite false) step := by
  have wide : 9999 * one + 2 * one < limit := by decide +kernel
  have computed : ∀ step ∈ radiusScale, (step.1 - .infinite false).abs.position = some (limit : Int) := by
    intro step listed
    obtain ⟨named, same, -, -⟩ := exists_of_mem_radiusScale listed
    rw [same]
    rfl
  apply uniformRadiusClass_of_kept computed least
  intro other listed
  right
  obtain ⟨named, same, -, below⟩ := exists_of_mem_radiusScale listed
  rw [stepGap, same]
  simp only [apart, position, signed, Bool.false_eq_true, if_false, Option.getD_some]
  omega

/-- From two on, the distances within reach are exact. -/
theorem uniformRadiusClass_large {m : Magnitude} (large : 2 * one ≤ m.units) {step : Binary64 × String}
    (least : IsFirstLeast (stepGap (finite false m)) radiusScale step) :
    uniformRadiusClass (finite false m) = calledBy (finite false m) step := by
  apply uniformRadiusClass_of_kept (position_step_sub m) least
  intro other listed
  obtain ⟨named, same, largeToo, -⟩ := exists_of_mem_radiusScale listed
  obtain ⟨near, far⟩ := nearest_apart largeToo large
  have positive := one_pos
  rw [stepGap, same]
  by_cases close : apart (finite false named) (finite false m) ≤ 4 * one
  · exact .inl (near close)
  · have beyond := far (Nat.not_le.mp close).le
    exact .inr (by omega)

/-- Below two, the first step is nearest. Distances are not exact then, but rounding passes neither
side of two. -/
theorem uniformRadiusClass_small {m : Magnitude} (small : m.units < 2 * one) {step : Binary64 × String}
    (least : IsFirstLeast (stepGap (finite false m)) radiusScale step) :
    uniformRadiusClass (finite false m) = calledBy (finite false m) step := by
  have behind : radiusScale.tail.map Prod.fst = [4, 6, 8, 12, 16, 24, 9999].map ofNat := by decide +kernel
  have within : ∀ n ∈ [4, 6, 8, 12, 16, 24, 9999], 4 ≤ n ∧ n ≤ 9999 := by decide
  obtain ⟨two, units, same⟩ := @ofNat_eq 2 (by decide)
  have near : stepGap (finite false m) (2, "rounded-sm") ≤ 2 * one := by
    have first : (2 : Binary64) = finite false two := same
    rw [stepGap, first]
    simp only [apart, position, signed, Bool.false_eq_true, if_false, Option.getD_some]
    omega
  have far : ∀ other ∈ radiusScale.tail, 2 * one ≤ stepGap (finite false m) other := by
    intro other listed
    obtain ⟨named, sameToo, above, -⟩ := exists_of_mem_steps behind within (by decide) listed
    rw [stepGap, sameToo]
    simp only [apart, position, signed, Bool.false_eq_true, if_false, Option.getD_some]
    omega
  have grid : OnGrid (2 * one) := units ▸ two.onGrid
  have first : IsFirstLeast (stepGap (finite false m)) radiusScale (2, "rounded-sm") :=
    isFirstLeast_cons fun other listed => Nat.le_trans near (far other listed)
  have nearToo : nearest (stepGap (finite false m) (2, "rounded-sm")) 1 ≤ 2 * one := nearest_le (by decide) grid (by rwa [Nat.mul_one])
  have farToo : ∀ other ∈ radiusScale.tail, 2 * one ≤ nearest (stepGap (finite false m) other) 1 :=
    fun other listed => le_nearest (by decide) grid (by rw [Nat.mul_one]; exact far other listed)
  have firstToo : IsFirstLeast (fun step => nearest (stepGap (finite false m) step) 1) radiusScale (2, "rounded-sm") :=
    isFirstLeast_cons fun other listed => Nat.le_trans nearToo (farToo other listed)
  rw [uniformRadiusClass_of_least (position_step_sub m) firstToo, if_pos nearToo, least.unique first, calledBy, if_pos near]

/-- A positive radius is called by the nearest step. -/
theorem uniformRadiusClass_eq {radius : Binary64} (positive : 0 < radius) {step : Binary64 × String}
    (least : IsFirstLeast (stepGap radius) radiusScale step) : uniformRadiusClass radius = calledBy radius step := by
  rcases cases_of_positive positive with rfl | ⟨m, rfl, -⟩
  · exact uniformRadiusClass_infinite least
  · by_cases small : m.units < 2 * one
    · exact uniformRadiusClass_small small least
    · exact uniformRadiusClass_large (Nat.not_lt.mp small) least

/-- How the one class of a radius is chosen when a step is nearest to the radius. -/
structure IsNamedAfter (radius : Binary64) (step : Binary64 × String) (cls : String) : Prop where
  shared : Corner.ofClass? cls = none
  near : stepGap radius step ≤ 2 * one → cls = step.2
  far : (∀ other ∈ radiusScale, 2 * one < stepGap radius other) → cls = literalRadius radius

private theorem isNamedAfter_calledBy {radius : Binary64} {step : Binary64 × String} (listed : step ∈ radiusScale) :
    IsNamedAfter radius step (calledBy radius step) := by
  constructor
  · unfold calledBy
    split
    · exact ofClass?_of_mem_radiusScale step listed
    · rw [literalRadius, String.append_assoc]
      exact ofClass?_literal _
  · intro near
    exact if_pos near
  · intro far
    exact if_neg (Nat.not_le.mpr (far step listed))

/-! Corners by themselves -/

/-- The class of a corner by itself. -/
def cornerClass (radii : CornerRadii) (corner : Corner) : String :=
  corner.stem ++ ("[" ++ quantity (radii.on corner) ++ "px]")

private theorem radiusClasses_of_not_isUniform {radii : CornerRadii} (differ : ¬radii.isUniform = true) :
    radiusClasses radii = (Corner.clockwise.filter (0 < radii.on ·)).map (cornerClass radii) := by
  unfold radiusClasses
  rw [if_neg differ]
  have corners : [("tl", radii.topLeft), ("tr", radii.topRight), ("br", radii.bottomRight), ("bl", radii.bottomLeft)] =
      Corner.clockwise.map fun corner => (corner.tag, radii.on corner) := rfl
  rw [corners, List.filter_map, List.map_map]
  apply List.map_congr_left
  intro corner _
  apply String.toList_injective
  simp [cornerClass, Corner.stem]

/-- Corners that are all alike have no class, or the one that the nearest step gives them; corners
that differ have a class each, if they are rounded, and none that is for all. -/
theorem radiusClasses_nearest (radii : CornerRadii) :
    (∀ radius, (∀ corner, (radii.on corner).equals radius = true) →
      (radius ≤ 0 → radiusClasses radii = []) ∧
      (0 < radius → ∃ step cls, IsFirstLeast (stepGap radius) radiusScale step ∧ radiusClasses radii = [cls] ∧
        IsNamedAfter radius step cls)) ∧
    ((¬∃ radius, ∀ corner, (radii.on corner).equals radius = true) →
      radiusClasses radii = (Corner.clockwise.filter (0 < radii.on ·)).map (cornerClass radii) ∧
      (radiusClasses radii).map Corner.ofClass? = (Corner.clockwise.filter (0 < radii.on ·)).map some) := by
  constructor
  · intro radius alike
    have uniform := CornerRadii.isUniform_iff.mpr ⟨radius, alike⟩
    have sign := le_iff_of_equals (alike .topLeft) 0
    rw [radiusClasses, if_pos uniform]
    constructor
    · intro flat
      exact if_pos (sign.mpr flat)
    · intro positive
      have some : ∃ step, IsFirstLeast (stepGap radius) radiusScale step := exists_isFirstLeast (by decide)
      obtain ⟨step, least⟩ := some
      have topLeft : 0 < radii.topLeft := (lt_iff_of_equals (alike .topLeft) 0).mpr positive
      have same : radii.topLeft = radius := eq_of_equals (alike .topLeft) topLeft
      refine ⟨step, calledBy radius step, least, ?_, isNamedAfter_calledBy least.mem⟩
      rw [if_neg (not_le_of_lt topLeft), same, uniformRadiusClass_eq positive least]
  · intro differ
    have apart := radiusClasses_of_not_isUniform fun uniform => differ (CornerRadii.isUniform_iff.mp uniform)
    refine ⟨apart, ?_⟩
    rw [apart, List.map_map]
    exact List.map_congr_left fun corner _ => Corner.ofClass?_stem_append corner _

/-- Three is as near to two as to four. -/
example : radiusClasses (.uniform 3) = ["rounded-sm"] := by decide +kernel

end Classes

end Handoff
