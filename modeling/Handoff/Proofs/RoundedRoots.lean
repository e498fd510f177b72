import Mathlib.Data.Nat.Sqrt
import Mathlib.Tactic.Linarith
import Handoff.Binary64.Arithmetic
import Handoff.Proofs.DecimalRounding

/-! Whole numbers and their roots. Sums, differences and squares of small whole numbers are
exact. Their roots are rounded, but lie so far apart that rounding keeps their order. -/

namespace Handoff.Binary64

/-! Rounding -/

theorem spacing_le {units k : Nat} (small : units < 2 ^ (k + 53)) : spacing units ≤ k := by
  by_cases zero : units = 0
  · rw [zero]
    exact Nat.zero_le k
  · have size := (Nat.log2_lt zero).mpr small
    unfold spacing
    omega

/-- The multiple nearest to a number is off by half a step at most. -/
theorem nearestMultiple_error (num shift : Nat) {den : Nat} (positive : 0 < den) :
    2 * num ≤ 2 * (nearestMultiple num den shift * (den * 2 ^ shift)) + den * 2 ^ shift ∧
      2 * (nearestMultiple num den shift * (den * 2 ^ shift)) ≤ 2 * num + den * 2 ^ shift := by
  have wide : 0 < den * 2 ^ shift := Nat.mul_pos positive (Nat.two_pow_pos shift)
  have parts := Nat.div_add_mod num (den * 2 ^ shift)
  have less := Nat.mod_lt num wide
  unfold nearestMultiple
  dsimp only
  rw [Nat.shiftLeft_eq]
  generalize den * 2 ^ shift = step at *
  generalize num / step = low at *
  rw [Nat.mul_comm] at parts
  have more : (low + 1) * step = low * step + step := Nat.succ_mul low step
  split
  · omega
  split
  · omega
  · rcases Nat.mod_two_eq_zero_or_one low with even | odd
    · rw [even, Nat.add_zero]
      omega
    · rw [odd]
      omega

/-- Rounding is off by half a step of the grid at most. -/
theorem nearest_error (num : Nat) {den k : Nat} (positive : 0 < den) (small : num / den < 2 ^ (k + 53)) :
    2 * num ≤ 2 * (nearest num den * den) + den * 2 ^ k ∧ 2 * (nearest num den * den) ≤ 2 * num + den * 2 ^ k := by
  obtain ⟨below, above⟩ := nearestMultiple_error num (spacing (num / den)) positive
  have step : den * 2 ^ spacing (num / den) ≤ den * 2 ^ k :=
    Nat.mul_le_mul_left den (Nat.pow_le_pow_right (by decide) (spacing_le small))
  have same : nearest num den * den =
      nearestMultiple num den (spacing (num / den)) * (den * 2 ^ spacing (num / den)) := by
    unfold nearest
    dsimp only
    rw [Nat.shiftLeft_eq, Nat.mul_assoc, Nat.mul_comm den]
  rw [same]
  omega

/-- A multiple that is no less than a number is no less than what the number is rounded to. -/
theorem nearestMultiple_le_of_le {num den shift bound : Nat} (positive : 0 < den) (below : num ≤ bound * (den * 2 ^ shift)) :
    nearestMultiple num den shift ≤ bound := by
  have wide : 0 < den * 2 ^ shift := Nat.mul_pos positive (Nat.two_pow_pos shift)
  have parts := Nat.div_add_mod num (den * 2 ^ shift)
  have whole : num / (den * 2 ^ shift) ≤ bound := Nat.div_le_of_le_mul (by rwa [Nat.mul_comm])
  unfold nearestMultiple
  dsimp only
  rw [Nat.shiftLeft_eq]
  generalize den * 2 ^ shift = step at *
  generalize num / step = low at *
  have beyond : 0 < num % step → low < bound := by
    intro rest
    rw [Nat.mul_comm] at parts
    exact Nat.lt_of_mul_lt_mul_right (a := step) (by omega)
  split
  · exact whole
  split
  · exact beyond (by omega)
  · have next := beyond (by omega)
    omega

/-- Rounding does not pass a number of the grid. -/
theorem nearest_le {num den units : Nat} (positive : 0 < den) (onGrid : OnGrid units) (below : num ≤ units * den) :
    nearest num den ≤ units := by
  have quotient : num / den ≤ units := Nat.div_le_of_le_mul (by rwa [Nat.mul_comm])
  have finer : spacing (num / den) ≤ spacing units := by
    refine spacing_le (Nat.lt_of_le_of_lt quotient (Nat.lt_of_lt_of_le Nat.lt_log2_self ?_))
    refine Nat.pow_le_pow_right (by decide) ?_
    unfold spacing
    omega
  obtain ⟨bound, rfl⟩ := Nat.dvd_trans (Nat.pow_dvd_pow 2 finer) onGrid.spacing_dvd
  unfold nearest
  dsimp only
  rw [Nat.shiftLeft_eq, Nat.mul_comm]
  refine Nat.mul_le_mul_left _ (nearestMultiple_le_of_le positive ?_)
  rwa [Nat.mul_comm den, ← Nat.mul_assoc, Nat.mul_comm bound]

/-! Whole numbers -/

private theorem ofInt_eq {i : Int} (small : i.natAbs < 1 <<< 53) :
    ∃ m : Magnitude, m.units = i.natAbs * one ∧ ofInt i = .finite (decide (i < 0)) m := by
  obtain ⟨m, units⟩ := exists_whole small
  exact ⟨m, units, by rw [ofInt, ← units, ofUnits_units]⟩

theorem ofNat_eq {n : Nat} (small : n < 1 <<< 53) : ∃ m : Magnitude, m.units = n * one ∧ ofNat n = .finite false m := by
  obtain ⟨m, units⟩ := exists_whole small
  exact ⟨m, units, by rw [ofNat, ← units, ofUnits_units]⟩

theorem one_pos : 0 < one := by decide +kernel

/-- Differences of small whole numbers are exact. -/
theorem ofNat_sub_ofNat {a b : Nat} (first : a < 1 <<< 53) (second : b < 1 <<< 53) : ofNat a - ofNat b = ofInt (a - b) := by
  obtain ⟨m, mUnits, mSame⟩ := ofNat_eq first
  obtain ⟨n, nUnits, nSame⟩ := ofNat_eq second
  have difference : signed false m.units + signed true n.units = ((a : Int) - b) * one := by
    simp only [signed, mUnits, nUnits, Bool.false_eq_true, if_false, if_true, Int.natCast_mul]
    rw [Int.sub_mul, Int.sub_eq_add_neg]
  have sign : ((a : Int) - b) * one < 0 ↔ (a : Int) - b < 0 := by
    have scaled := Int.mul_lt_mul_right (a := one) (b := (a : Int) - b) (c := 0) (Int.natCast_pos.mpr one_pos)
    rwa [Int.zero_mul] at scaled
  rw [mSame, nSame, ofInt]
  change add (.finite false m) (.finite true n) = _
  simp only [add, difference, Int.natAbs_mul, Int.natAbs_natCast, sign, Bool.false_and]
  congr 1
  split
  next zero =>
    have same := (Int.mul_eq_zero.mp zero).resolve_right (Int.natCast_ne_zero.mpr (Nat.ne_of_gt one_pos))
    rw [same]
    rfl
  next => rfl

/-- Squares of small whole numbers are exact. -/
theorem ofInt_mul_self {i : Int} (small : i.natAbs < 1 <<< 53) : ofInt i * ofInt i = ofNat (i.natAbs * i.natAbs) := by
  obtain ⟨m, units, same⟩ := ofInt_eq small
  have scaled := ofUnits_mul false (i.natAbs * i.natAbs * one) 1 one_pos
  have product : i.natAbs * one * (i.natAbs * one) = i.natAbs * i.natAbs * one * one := by
    rw [Nat.mul_mul_mul_comm, ← Nat.mul_assoc]
  rw [same, ofNat, ← scaled, Nat.one_mul]
  change ofUnits _ (m.units * m.units) one = _
  rw [bne_self_eq_false, units, product]

/-- Sums of small whole numbers are exact. -/
theorem ofNat_add_ofNat {a b : Nat} (first : a < 1 <<< 53) (second : b < 1 <<< 53) : ofNat a + ofNat b = ofNat (a + b) := by
  obtain ⟨m, mUnits, mSame⟩ := ofNat_eq first
  obtain ⟨n, nUnits, nSame⟩ := ofNat_eq second
  have sum : signed false m.units + signed false n.units = ((a + b) * one : Nat) := by
    simp only [signed, mUnits, nUnits, Bool.false_eq_true, if_false, ← Int.natCast_add, ← Nat.add_mul]
  have notBelow : ¬((((a + b) * one : Nat) : Int) < 0) := Int.not_lt.mpr (Int.natCast_nonneg _)
  rw [mSame, nSame, ofNat]
  change add (.finite false m) (.finite false n) = _
  simp only [add, sum, notBelow, Int.natAbs_natCast, Bool.and_self, decide_false, ite_self]

theorem position_ofNat {n : Nat} (small : n < 1 <<< 53) : (ofNat n).position = some ((n * one : Nat) : Int) := by
  obtain ⟨m, units, same⟩ := ofNat_eq small
  rw [same, position, units]
  rfl

/-- A product with a small whole number is rounded once. -/
theorem finite_mul_ofNat {n : Nat} (small : n < 1 <<< 53) (negative : Bool) (m : Magnitude) :
    finite negative m * ofNat n = ofUnits negative (m.units * n) 1 := by
  obtain ⟨other, units, same⟩ := ofNat_eq small
  have scaled := ofUnits_mul negative (m.units * n) 1 one_pos
  rw [same, ← scaled, Nat.one_mul]
  change ofUnits (negative != false) (m.units * other.units) one = _
  rw [Bool.bne_false, units, Nat.mul_assoc]

/-- What is rounded stays below a small whole number that it was below. -/
theorem ofUnits_eq_of_le {num n : Nat} (small : n < 1 <<< 53) (below : num ≤ n * one) (negative : Bool) :
    ∃ m : Magnitude, m.units ≤ n * one ∧ ofUnits negative num 1 = .finite negative m := by
  obtain ⟨whole, units⟩ := exists_whole small
  have rounded : nearest num 1 ≤ whole.units := nearest_le (by decide) whole.onGrid (by rwa [Nat.mul_one, units])
  refine ⟨⟨nearest num 1, onGrid_nearest num 1, Nat.lt_of_le_of_lt rounded whole.inRange⟩, units ▸ rounded, ?_⟩
  rw [ofUnits, dif_pos]

theorem wholeOnes_le {units n : Nat} (below : units ≤ n * one) : wholeOnes units ≤ n := by
  have positive := one_pos
  have next := Nat.succ_mul n one
  refine Nat.le_of_lt_succ ((Nat.div_lt_iff_lt_mul (by omega)).mpr ?_)
  rw [Nat.mul_left_comm]
  omega

/-! Roots -/

/-- The root of a whole number before it is rounded, in half units. -/
def halvesOfRoot (n : Nat) : Nat :=
  let square := n * one * one
  2 * square.sqrt + if square.sqrt * square.sqrt < square then 1 else 0

theorem sqrt_ofNat {n : Nat} (small : n < 1 <<< 53) : (ofNat n).sqrt = ofUnits false (halvesOfRoot n) 2 := by
  obtain ⟨m, units, same⟩ := ofNat_eq small
  rw [same, sqrt]
  split
  next zero =>
    have none : n = 0 := (Nat.mul_eq_zero.mp (units ▸ zero)).resolve_right (Nat.ne_of_gt one_pos)
    have halves : halvesOfRoot 0 = m.units * 2 := by simp [halvesOfRoot, zero]
    have scaled := ofUnits_mul false m.units 1 (by decide : 0 < 2)
    rw [none, halves, ← ofUnits_units false m]
    exact scaled.symm
  next =>
    rw [if_neg Bool.false_ne_true, units]
    rfl

/-- Whole roots are exact. -/
theorem sqrt_ofNat_mul_self {n : Nat} (small : n * n < 1 <<< 53) : (ofNat (n * n)).sqrt = ofNat n := by
  have square : n * n * one * one = n * one * (n * one) := by rw [Nat.mul_mul_mul_comm, ← Nat.mul_assoc]
  have halves : halvesOfRoot (n * n) = n * one * 2 := by
    unfold halvesOfRoot
    dsimp only
    rw [square, Nat.sqrt_eq, if_neg (Nat.lt_irrefl _), Nat.add_zero, Nat.mul_comm]
  have scaled := ofUnits_mul false (n * one) 1 (by decide : 0 < 2)
  rw [Nat.one_mul] at scaled
  rw [sqrt_ofNat small, halves, scaled, ofNat]

theorem one_eq : one = 2 ^ 44 * 2 ^ 1030 := by
  rw [one, Nat.one_shiftLeft, ← Nat.pow_add]

theorem sqrt_lt_of_lt {n : Nat} (small : n < 2 ^ 18) : (n * one * one).sqrt < 2 ^ 9 * one := by
  refine Nat.sqrt_lt.mpr ?_
  have wide : n * (one * one) < 2 ^ 18 * (one * one) := Nat.mul_lt_mul_of_pos_right small (Nat.mul_pos one_pos one_pos)
  linarith

/-- The roots of small whole numbers lie farther apart than any rounding can move them. -/
theorem halvesOfRoot_apart {m n step : Nat} (scale : one = 2 ^ 44 * step) (less : m < n) (small : n < 2 ^ 18) :
    halvesOfRoot m + 2 * step < halvesOfRoot n := by
  have positive : 0 < step := Nat.pos_of_mul_pos_left (scale ▸ one_pos)
  have below := Nat.sqrt_le (m * one * one)
  have above := Nat.lt_succ_sqrt (n * one * one)
  have bound := sqrt_lt_of_lt (Nat.lt_trans less small)
  have squares : m * one * one + one * one ≤ n * one * one := by
    rw [← Nat.add_mul, ← Nat.succ_mul]
    exact Nat.mul_le_mul_right one (Nat.mul_le_mul_right one less)
  by_contra near
  have close : (n * one * one).sqrt ≤ (m * one * one).sqrt + step := by
    unfold halvesOfRoot at near
    dsimp only at near
    split at near <;> split at near <;> omega
  generalize (m * one * one).sqrt = first at *
  generalize (n * one * one).sqrt = second at *
  have square := Nat.mul_self_le_mul_self (Nat.succ_le_succ close)
  have gap : one * one < 2 * (first * (step + 1)) + (step + 1) * (step + 1) := by
    simp only [Nat.succ_eq_add_one] at above square
    linarith
  -- with a step of `2 ^ -44` the right side is about `2 ^ -33`
  have double : step + 1 ≤ 2 * step := by omega
  have cross : first * (step + 1) ≤ 2 ^ 9 * one * (2 * step) := Nat.mul_le_mul bound.le double
  have last : (step + 1) * (step + 1) ≤ 2 * step * (2 * step) := Nat.mul_le_mul double double
  have some : 0 < step * step := Nat.mul_pos positive positive
  rw [scale] at gap cross
  linarith

theorem halvesOfRoot_lt {n : Nat} (small : n < 2 ^ 18) : halvesOfRoot n < 2 ^ 10 * one := by
  have bound := sqrt_lt_of_lt small
  unfold halvesOfRoot
  dsimp only
  split <;> omega

theorem halvesOfRoot_error {n : Nat} (small : n < 2 ^ 18) :
    2 * halvesOfRoot n ≤ 2 * (nearest (halvesOfRoot n) 2 * 2) + 2 * 2 ^ 1030 ∧
      2 * (nearest (halvesOfRoot n) 2 * 2) ≤ 2 * halvesOfRoot n + 2 * 2 ^ 1030 := by
  refine nearest_error _ (by decide) ((Nat.div_lt_iff_lt_mul (by decide)).mpr ?_)
  have power : 2 ^ 10 * one = 2 ^ (1030 + 53) * 2 := by
    rw [one_eq, ← Nat.pow_add, ← Nat.pow_add, ← Nat.pow_succ]
  exact power ▸ halvesOfRoot_lt small

theorem strictMonoOn_nearest_halvesOfRoot : StrictMonoOn (fun n => nearest (halvesOfRoot n) 2) (Set.Iio (2 ^ 18)) := by
  intro m first n second less
  have apart := halvesOfRoot_apart one_eq less second
  have low := (halvesOfRoot_error first).2
  have high := (halvesOfRoot_error second).1
  generalize 2 ^ 1030 = step at *
  dsimp only
  omega

theorem position_sqrt_ofNat {n : Nat} (small : n < 2 ^ 18) :
    (ofNat n).sqrt.position = some (nearest (halvesOfRoot n) 2 : Int) := by
  have inRange : nearest (halvesOfRoot n) 2 < limit := by
    have high := (halvesOfRoot_error small).2
    have bound := halvesOfRoot_lt small
    have wide : 2 ^ 11 * one ≤ limit := by decide +kernel
    rw [one_eq] at bound wide
    generalize 2 ^ 1030 = step at *
    omega
  rw [sqrt_ofNat (Nat.lt_trans small (by decide)), ofUnits, dif_pos inRange]
  rfl

section

variable {a b : Binary64} {x y : Int} (first : a.position = some x) (second : b.position = some y)
include first second

theorem lt_iff_of_position : a < b ↔ x < y := by
  change related _ a b = true ↔ _
  rw [related, first, second]
  exact decide_eq_true_iff

theorem le_iff_of_position : a ≤ b ↔ x ≤ y := by
  change related _ a b = true ↔ _
  rw [related, first, second]
  exact decide_eq_true_iff

end

/-- Roots of small whole numbers are in the order of the numbers. -/
theorem sqrt_ofNat_lt_iff {m n : Nat} (first : m < 2 ^ 18) (second : n < 2 ^ 18) :
    (ofNat m).sqrt < (ofNat n).sqrt ↔ m < n := by
  rw [lt_iff_of_position (position_sqrt_ofNat first) (position_sqrt_ofNat second), Int.ofNat_lt]
  exact strictMonoOn_nearest_halvesOfRoot.lt_iff_lt first second

theorem sqrt_ofNat_le_iff {m n : Nat} (first : m < 2 ^ 18) (second : n < 2 ^ 18) :
    (ofNat m).sqrt ≤ (ofNat n).sqrt ↔ m ≤ n := by
  rw [le_iff_of_position (position_sqrt_ofNat first) (position_sqrt_ofNat second), Int.ofNat_le]
  exact strictMonoOn_nearest_halvesOfRoot.le_iff_le first second

end Handoff.Binary64
