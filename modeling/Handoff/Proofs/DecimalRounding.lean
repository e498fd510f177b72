import Mathlib.Algebra.Group.Nat.Defs
import Handoff.Binary64.Text

/-! Rounding leaves a number of the grid alone and depends on a quotient only. So every
magnitude is read back from its exact decimal, and from the shortest one that is written. -/

namespace Handoff
namespace Binary64

theorem OnGrid.spacing_dvd {units : Nat} (onGrid : OnGrid units) : 2 ^ spacing units ∣ units := by
  obtain ⟨mantissa, shift, bound, rfl⟩ := onGrid
  rw [Nat.shiftLeft_eq]
  by_cases zero : mantissa = 0
  · rw [zero, Nat.zero_mul]
    exact Nat.dvd_zero _
  · have small : mantissa < 2 ^ 53 := by simpa [Nat.shiftLeft_eq] using bound
    have nonzero : mantissa * 2 ^ shift ≠ 0 := Nat.mul_ne_zero zero (Nat.ne_of_gt (Nat.two_pow_pos shift))
    have size : (mantissa * 2 ^ shift).log2 < 53 + shift := by
      rw [Nat.log2_lt nonzero, Nat.pow_add]
      exact Nat.mul_lt_mul_of_pos_right small (Nat.two_pow_pos shift)
    have fits : spacing (mantissa * 2 ^ shift) ≤ shift := by
      unfold spacing
      omega
    exact Nat.dvd_trans (Nat.pow_dvd_pow 2 fits) (Nat.dvd_mul_left _ _)

private theorem nearestMultiple_of_dvd {units shift : Nat} (whole : 2 ^ shift ∣ units) :
    nearestMultiple units 1 shift = units / 2 ^ shift := by
  have rest : units % 2 ^ shift = 0 := Nat.mod_eq_zero_of_dvd whole
  have positive : 2 * 0 < 2 ^ shift := Nat.two_pow_pos shift
  unfold nearestMultiple
  dsimp only
  rw [Nat.shiftLeft_eq, Nat.one_mul, rest, if_pos positive]

theorem nearest_of_onGrid {units : Nat} (onGrid : OnGrid units) : nearest units 1 = units := by
  unfold nearest
  dsimp only
  rw [Nat.div_one, nearestMultiple_of_dvd onGrid.spacing_dvd, Nat.shiftLeft_eq]
  exact Nat.div_mul_cancel onGrid.spacing_dvd

private theorem nearestMultiple_mul (num den shift : Nat) {scale : Nat} (positive : 0 < scale) :
    nearestMultiple (num * scale) (den * scale) shift = nearestMultiple num den shift := by
  have step : (den * scale) <<< shift = den <<< shift * scale := by
    rw [Nat.shiftLeft_eq, Nat.shiftLeft_eq, Nat.mul_right_comm]
  have below : ∀ a b : Nat, a * scale < b * scale ↔ a < b := fun a b => Nat.mul_lt_mul_right positive
  unfold nearestMultiple
  dsimp only
  rw [step, Nat.mul_div_mul_right _ _ positive, Nat.mul_mod_mul_right, ← Nat.mul_assoc]
  simp only [below]

/-- Rounding depends on the quotient only. -/
theorem nearest_mul (num den : Nat) {scale : Nat} (positive : 0 < scale) :
    nearest (num * scale) (den * scale) = nearest num den := by
  unfold nearest
  dsimp only
  rw [Nat.mul_div_mul_right _ _ positive, nearestMultiple_mul num den _ positive]

theorem ofUnits_mul (negative : Bool) (num den : Nat) {scale : Nat} (positive : 0 < scale) :
    ofUnits negative (num * scale) (den * scale) = ofUnits negative num den := by
  unfold ofUnits
  simp only [nearest_mul num den positive]

theorem ofUnits_units (negative : Bool) (m : Magnitude) : ofUnits negative m.units 1 = .finite negative m := by
  obtain ⟨units, onGrid, inRange⟩ := m
  have same := nearest_of_onGrid onGrid
  unfold ofUnits
  simp only [same, inRange, dite_true]

/-- The sign of a decimal is the sign of what it reads as, and nothing else. -/
theorem ofUnits_sign {num den : Nat} {m : Magnitude} (negative : Bool) (read : ofUnits false num den = .finite false m) :
    ofUnits negative num den = .finite negative m := by
  unfold ofUnits at read ⊢
  split at read
  next inRange =>
    rw [dif_pos inRange]
    injection read with _ same
    rw [same]
  next => cases read

private theorem ofDecimal_sign {d : Decimal} {m : Magnitude} (negative : Bool) (read : ofDecimal false d = .finite false m) :
    ofDecimal negative d = .finite negative m := by
  unfold ofDecimal at read ⊢
  by_cases zero : d.digits = 0
  · rw [if_pos zero] at read ⊢
    exact ofUnits_sign negative read
  rw [if_neg zero] at read ⊢
  by_cases large : 400 < d.exponent
  · rw [if_pos large] at read
    cases read
  rw [if_neg large] at read ⊢
  by_cases tiny : d.exponent < -(400 + (d.digits.log2 : Int))
  · rw [if_pos tiny] at read ⊢
    exact ofUnits_sign negative read
  rw [if_neg tiny] at read ⊢
  by_cases whole : 0 ≤ d.exponent
  · rw [if_pos whole] at read ⊢
    exact ofUnits_sign negative read
  · rw [if_neg whole] at read ⊢
    exact ofUnits_sign negative read

/-- Whole digits may be followed by zeros and one decimal place. -/
theorem ofDecimal_tenths (negative : Bool) (digits exponent : Nat) (bound : exponent ≤ 400) :
    ofDecimal negative ⟨digits * 10 ^ exponent * 10, -1⟩ = ofDecimal negative ⟨digits, exponent⟩ := by
  by_cases zero : digits = 0
  · simp [ofDecimal, zero]
  · have power : 10 ^ exponent ≠ 0 := Nat.ne_of_gt (Nat.pow_pos (by decide : 0 < 10))
    have spread : digits * 10 ^ exponent * 10 ≠ 0 := Nat.mul_ne_zero (Nat.mul_ne_zero zero power) (by decide)
    have moved : digits * 10 ^ exponent * 10 * one = digits * 10 ^ exponent * one * 10 := Nat.mul_right_comm _ _ _
    have scaled := ofUnits_mul negative (digits * 10 ^ exponent * one) 1 (by decide : 0 < 10)
    unfold ofDecimal
    dsimp only
    rw [if_neg spread, if_neg (by omega), if_neg (by omega), if_neg (by omega), if_neg zero, if_neg (by omega),
      if_neg (by omega), if_pos (by omega), moved]
    exact scaled

theorem isFinite_of_mem_unit {x : Binary64} (unit : 0 ≤ x ∧ x ≤ 1) : x.isFinite = true := by
  cases x with
  | nan => exact absurd unit.1 (by decide)
  | infinite negative => cases negative <;> exact absurd unit (by decide +kernel)
  | finite negative magnitude => rfl

/-- Whole numbers of 53 bits are on the grid, far below its end. -/
theorem exists_whole {n : Nat} (small : n < 1 <<< 53) : ∃ m : Magnitude, m.units = n * one := by
  have onGrid : OnGrid (n * one) := ⟨n, 1074, small, by rw [one, Nat.shiftLeft_eq, Nat.shiftLeft_eq, Nat.one_mul]⟩
  have inRange : n * one < limit := by
    rw [one, limit, Nat.one_shiftLeft, Nat.one_shiftLeft]
    rw [Nat.one_shiftLeft] at small
    refine Nat.lt_of_lt_of_le (Nat.mul_lt_mul_of_pos_right small (Nat.two_pow_pos 1074)) ?_
    rw [← Nat.pow_add]
    exact Nat.pow_le_pow_right (by decide) (by decide)
  exact ⟨⟨n * one, onGrid, inRange⟩, rfl⟩

theorem isFinite_ofInt {n : Nat} (small : n < 1 <<< 53) : (ofInt n).isFinite = true := by
  obtain ⟨m, units⟩ := exists_whole small
  rw [ofInt, Int.natAbs_natCast, ← units, ofUnits_units]
  rfl

end Binary64

namespace Magnitude
open Binary64

private theorem ten_pow (n : Nat) : 5 ^ n * 2 ^ n = 10 ^ n := (Nat.mul_pow 5 2 n).symm

private theorem le_log2_mul_five_pow {units : Nat} (nonzero : units ≠ 0) (n : Nat) : n ≤ (units * 5 ^ n).log2 := by
  have power : 2 ^ n ≤ 5 ^ n := Nat.pow_le_pow_left (by decide) n
  have positive : 5 ^ n ≠ 0 := Nat.ne_of_gt (Nat.pow_pos (by decide : 0 < 5))
  have grown : 5 ^ n ≤ units * 5 ^ n := Nat.le_mul_of_pos_left _ (Nat.pos_of_ne_zero nonzero)
  rw [Nat.le_log2 (Nat.mul_ne_zero nonzero positive)]
  exact Nat.le_trans power grown

/-- Units of `2 ^ -n` have `n` decimal places. -/
theorem ofDecimal_places (m : Magnitude) {n : Nat} (positive : 0 < n) (unit : one = 1 <<< n) :
    ofDecimal false ⟨m.units * 5 ^ n, -(n : Int)⟩ = .finite false m := by
  have units := ofUnits_units false m
  unfold ofDecimal
  dsimp only
  by_cases zero : m.units = 0
  · rw [if_pos (by rw [zero, Nat.zero_mul]), ← zero, units]
  · have size := le_log2_mul_five_pow zero n
    have digits : m.units * 5 ^ n ≠ 0 := by
      intro none
      rw [none, Nat.log2_zero] at size
      omega
    have places : (- -(n : Int)).toNat = n := by rw [Int.neg_neg, Int.toNat_natCast]
    have scaled : m.units * 5 ^ n * one = m.units * 10 ^ n := by
      rw [unit, Nat.one_shiftLeft, Nat.mul_assoc, ten_pow]
    have same := ofUnits_mul false m.units 1 (Nat.pow_pos (by decide) : 0 < 10 ^ n)
    rw [Nat.one_mul, units] at same
    rw [if_neg digits, if_neg (by omega), if_neg (by omega), if_neg (by omega), scaled, places]
    exact same

private theorem readsBack_exactDecimal (m : Magnitude) : m.readsBack m.exactDecimal = true :=
  decide_eq_true (m.ofDecimal_places (by decide : 0 < 1074) rfl)

theorem ofDecimal_shortest (tie : Tie) (m : Magnitude) (negative : Bool) :
    ofDecimal negative (m.shortest tie) = .finite negative m :=
  ofDecimal_sign negative (of_decide_eq_true (readsBack_shortest m.readsBack_exactDecimal))

theorem digits_shortest_ne_zero (tie : Tie) {m : Magnitude} (nonzero : m.units ≠ 0) : (m.shortest tie).digits ≠ 0 := by
  intro zero
  have read := m.ofDecimal_shortest tie false
  rw [ofDecimal, if_pos zero, ofUnits] at read
  split at read
  · injection read with _ same
    have none : nearest 0 1 = 0 := by decide
    exact nonzero (by rw [← same]; exact none)
  · cases read

end Magnitude

end Handoff
