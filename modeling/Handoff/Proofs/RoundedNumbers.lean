import Handoff.Proofs.RoundedRoots

/-! Rounding, told without the way it is done. A number is rounded to the whole number nearest to
it, and of two to the one farther from zero; what is rounded to the grid keeps its place among
the numbers of the grid. -/

namespace Handoff.Binary64

/-! Rounding to whole numbers -/

/-- The whole number nearest to a place on the line, and of two the one farther from zero. -/
structure IsRounded (place whole : Int) : Prop where
  near : 2 * (place - whole * one).natAbs ≤ one
  away : 2 * (place - whole * one).natAbs = one → place.natAbs < (whole * one).natAbs

private theorem whole_apart {low high : Int} (less : low < high) : low * one + one ≤ high * one := by
  have scaled := Int.mul_le_mul_of_nonneg_right (Int.add_one_le_of_lt less) (Int.natCast_nonneg one)
  rwa [Int.add_mul, Int.one_mul] at scaled

/-- Of two whole numbers that are as near, one is farther from zero. -/
theorem IsRounded.not_lt {place low high : Int} (left : IsRounded place low) (right : IsRounded place high) : ¬low < high := by
  intro less
  have step := whole_apart less
  have positive := one_pos
  obtain ⟨near, away⟩ := left
  obtain ⟨nearToo, awayToo⟩ := right
  -- both can be near only as neighbours with the place right between them, so on one side of zero
  by_cases below : low < 0
  · by_cases above : 0 < high
    · have lowStep := whole_apart below
      have highStep := whole_apart above
      omega
    · have bound : high * one ≤ 0 := Int.mul_nonpos_of_nonpos_of_nonneg (Int.not_lt.mp above) (Int.natCast_nonneg one)
      omega
  · have bound : 0 ≤ low * one := Int.mul_nonneg (Int.not_lt.mp below) (Int.natCast_nonneg one)
    omega

private theorem IsRounded.unique {place first second : Int} (left : IsRounded place first) (right : IsRounded place second) :
    first = second :=
  Int.le_antisymm (Int.not_lt.mp (right.not_lt left)) (Int.not_lt.mp (left.not_lt right))

private theorem isRounded_wholeOnes (negative : Bool) (units : Nat) :
    IsRounded (signed negative units) (signed negative (wholeOnes units)) := by
  have positive := one_pos
  have parts := Nat.div_add_mod (2 * units + one) (2 * one)
  have rest := Nat.mod_lt (2 * units + one) (by omega : 0 < 2 * one)
  have scaled : 2 * one * wholeOnes units = 2 * (wholeOnes units * one) := by
    rw [Nat.mul_assoc, Nat.mul_comm one]
  rw [← wholeOnes, scaled] at parts
  have size : ∀ whole : Nat, signed negative whole * one = signed negative (whole * one) := by
    intro whole
    cases negative
    · exact (Int.natCast_mul whole one).symm
    · simp only [signed, if_true, Int.natCast_mul, Int.neg_mul]
  constructor
  · rw [size]
    cases negative <;> simp only [signed, Bool.false_eq_true, if_false, if_true] <;> omega
  · rw [size]
    cases negative <;> simp only [signed, Bool.false_eq_true, if_false, if_true] <;> omega

/-- The ends of the range are whole numbers, of far more than 64 bits. -/
theorem exists_isRounded_limit (negative : Bool) :
    ∃ whole : Nat, 2 ^ 64 ≤ whole ∧ IsRounded (signed negative limit) (signed negative whole) := by
  have large : 2 ^ 64 ≤ limit / one := by decide +kernel
  have size : ((limit / one : Nat) : Int) * one = limit := by
    rw [← Int.natCast_mul]
    exact congrArg _ (by decide +kernel)
  have positive := one_pos
  have wide : 0 < limit := by decide +kernel
  refine ⟨limit / one, large, ?_, ?_⟩
  · cases negative <;> simp only [signed, Bool.false_eq_true, if_false, if_true, Int.neg_mul, size] <;> omega
  · cases negative <;> simp only [signed, Bool.false_eq_true, if_false, if_true, Int.neg_mul, size] <;> omega

/-- What a number is rounded to when the result has to lie within bounds. -/
def RoundsWithin (low high : Int) (x : Binary64) (result : Int) : Prop :=
  ∃ place whole, x.position = some place ∧ IsRounded place whole ∧ result = max low (min high whole)

theorem roundsWithin_iff {low high : Int} (below : -2 ^ 64 ≤ low) (ordered : low ≤ high) (above : high ≤ 2 ^ 64)
    {x : Binary64} (number : x ≠ .nan) {result : Int} : RoundsWithin low high x result ↔ result = roundToInt low high x := by
  have rounded : RoundsWithin low high x (roundToInt low high x) := by
    cases x with
    | nan => exact absurd rfl number
    | infinite negative =>
      obtain ⟨whole, large, near⟩ := exists_isRounded_limit negative
      refine ⟨_, _, rfl, near, ?_⟩
      cases negative
      · simp only [roundToInt, signed, Bool.false_eq_true, if_false]
        omega
      · simp only [roundToInt, signed, if_true]
        omega
    | finite negative magnitude => exact ⟨_, _, rfl, isRounded_wholeOnes negative magnitude.units, rfl⟩
  constructor
  · intro within
    obtain ⟨place, whole, stands, near, rfl⟩ := within
    obtain ⟨other, known, standsToo, nearToo, same⟩ := rounded
    cases stands.symm.trans standsToo
    rw [same, near.unique nearToo]
  · intro same
    rw [same]
    exact rounded

private theorem position_zero : (0 : Binary64).position = some 0 := position_ofNat (by decide : 0 < 1 <<< 53)

/-- What is above zero is infinite or a magnitude. -/
theorem cases_of_positive {x : Binary64} (positive : 0 < x) :
    x = .infinite false ∨ ∃ m : Magnitude, x = .finite false m ∧ 0 < m.units := by
  cases x with
  | nan => cases positive
  | infinite negative =>
    cases negative with
    | false => exact .inl rfl
    | true => exact absurd ((lt_iff_of_position position_zero rfl).mp positive) (by decide +kernel)
  | finite negative m =>
    have above := (lt_iff_of_position position_zero rfl).mp positive
    cases negative with
    | false => exact .inr ⟨m, rfl, Int.natCast_pos.mp above⟩
    | true =>
      simp only [signed, if_true] at above
      omega

theorem equals_iff {a b : Binary64} : a.equals b = true ↔ ∃ place, a.position = some place ∧ b.position = some place := by
  unfold equals related
  constructor
  · intro same
    split at same
    next x y first second => exact ⟨x, first, beq_iff_eq.mp same ▸ second⟩
    next => cases same
  · intro both
    obtain ⟨place, first, second⟩ := both
    simp [first, second]

section

variable {a b : Binary64} (same : a.equals b = true) (c : Binary64)
include same

theorem le_iff_of_equals : a ≤ c ↔ b ≤ c := by
  obtain ⟨place, first, second⟩ := equals_iff.mp same
  change related _ a c = true ↔ related _ b c = true
  rw [related, related, first, second]

theorem lt_iff_of_equals : c < a ↔ c < b := by
  obtain ⟨place, first, second⟩ := equals_iff.mp same
  change related _ c a = true ↔ related _ c b = true
  rw [related, related, first, second]

end

theorem not_le_of_lt {a b : Binary64} (less : a < b) : ¬b ≤ a := by
  change related _ a b = true at less
  change ¬related _ b a = true
  unfold related at less ⊢
  split at less
  next x y first second =>
    rw [first, second]
    simpa using less
  next => cases less

theorem not_positive_of_zero {x : Binary64} (zero : x.equals 0 = true) : ¬0 < x := by
  obtain ⟨place, first, second⟩ := equals_iff.mp zero
  rw [lt_iff_of_position second first]
  exact Int.lt_irrefl place

/-- Away from zero, numbers that are equal are the same. -/
theorem eq_of_equals {a b : Binary64} (same : a.equals b = true) (positive : 0 < a) : a = b := by
  obtain ⟨place, first, second⟩ := equals_iff.mp same
  have positiveToo := (lt_iff_of_equals same 0).mp positive
  rcases cases_of_positive positive with rfl | ⟨m, rfl, -⟩ <;> rcases cases_of_positive positiveToo with rfl | ⟨n, rfl, -⟩
  · rfl
  · have inRange := n.inRange
    have units := Option.some.inj (first.trans second.symm)
    simp only [signed, Bool.false_eq_true, if_false] at units
    omega
  · have inRange := m.inRange
    have units := Option.some.inj (first.trans second.symm)
    simp only [signed, Bool.false_eq_true, if_false] at units
    omega
  · have units := Option.some.inj (first.trans second.symm)
    obtain ⟨left, _, _⟩ := m
    obtain ⟨right, _, _⟩ := n
    cases Int.natCast_inj.mp units
    rfl

/-! Distances -/

/-- How far apart two numbers stand, in units. -/
def apart (a b : Binary64) : Nat := (a.position.getD 0 - b.position.getD 0).natAbs

private theorem div_le_nearestMultiple (num den shift : Nat) : num / (den * 2 ^ shift) ≤ nearestMultiple num den shift := by
  unfold nearestMultiple
  dsimp only
  rw [Nat.shiftLeft_eq]
  split
  · exact Nat.le_refl _
  split <;> exact Nat.le_add_right _ _

/-- Rounding does not pass a number of the grid from above either. -/
theorem le_nearest {num den units : Nat} (positive : 0 < den) (onGrid : OnGrid units) (above : units * den ≤ num) :
    units ≤ nearest num den := by
  have quotient : units ≤ num / den := (Nat.le_div_iff_mul_le positive).mpr above
  have low := div_le_nearestMultiple num den (spacing (num / den))
  rw [← Nat.div_div_eq_div_mul] at low
  unfold nearest
  dsimp only
  rw [Nat.shiftLeft_eq]
  apply Nat.le_trans _ (Nat.mul_le_mul_right _ low)
  generalize num / den = whole at *
  -- the number itself is on the coarser grid, or the power of two below the quotient lies between
  have between : ∃ bound, units ≤ bound ∧ bound ≤ whole ∧ 2 ^ spacing whole ∣ bound := by
    by_cases finer : units.log2 < whole.log2
    · have less : units < 2 ^ whole.log2 := Nat.lt_of_lt_of_le Nat.lt_log2_self (Nat.pow_le_pow_right (by decide) finer)
      have filled : whole ≠ 0 := by
        intro zero
        subst zero
        exact absurd finer (Nat.not_lt_zero _)
      exact ⟨2 ^ whole.log2, less.le, Nat.log2_self_le filled, Nat.pow_dvd_pow 2 (Nat.sub_le _ _)⟩
    · have coarser : spacing whole ≤ spacing units := by
        unfold spacing
        omega
      exact ⟨units, Nat.le_refl units, quotient, Nat.dvd_trans (Nat.pow_dvd_pow 2 coarser) onGrid.spacing_dvd⟩
  obtain ⟨bound, below, inside, divides⟩ := between
  calc units ≤ bound := below
    _ = bound / 2 ^ spacing whole * 2 ^ spacing whole := (Nat.div_mul_cancel divides).symm
    _ ≤ whole / 2 ^ spacing whole * 2 ^ spacing whole := Nat.mul_le_mul_right _ (Nat.div_le_div_right inside)

/-- Differences of large numbers are exact when they are small. -/
theorem onGrid_natAbs_sub {a b k : Nat} (first : OnGrid a) (second : OnGrid b) (large : 2 ^ (k + 52) ≤ a)
    (largeToo : 2 ^ (k + 52) ≤ b) (near : ((a : Int) - b).natAbs ≤ 2 ^ (k + 53)) : OnGrid ((a : Int) - b).natAbs := by
  have whole : ∀ {units : Nat}, OnGrid units → 2 ^ (k + 52) ≤ units → (2 ^ k : Int) ∣ units := by
    intro units onGrid wide
    have exponent : k + 52 ≤ units.log2 := (Nat.le_log2 (by have := Nat.two_pow_pos (k + 52); omega)).mpr wide
    have coarser : k ≤ spacing units := by
      unfold spacing
      omega
    exact_mod_cast Nat.dvd_trans (Nat.pow_dvd_pow 2 coarser) onGrid.spacing_dvd
  obtain ⟨multiple, same⟩ := Int.dvd_sub (whole first large) (whole second largeToo)
  have units : ((a : Int) - b).natAbs = multiple.natAbs <<< k := by
    rw [same, Int.natAbs_mul, Int.natAbs_pow, Nat.shiftLeft_eq, Nat.mul_comm]
    rfl
  rw [units] at near ⊢
  apply onGrid_of_le k
  rw [Nat.shiftLeft_eq, Nat.add_comm, Nat.pow_add] at near
  exact Nat.le_of_mul_le_mul_right near (Nat.two_pow_pos k)

/-- A distance as it is computed is the exact one, rounded. -/
theorem position_abs_sub (a b : Magnitude) :
    (finite false a - finite false b).abs.position = some (nearest (apart (finite false a) (finite false b)) 1 : Int) := by
  change (abs (add (finite false a) (finite true b))).position = some (nearest ((a.units : Int) - b.units).natAbs 1 : Int)
  have inRange : nearest ((a.units : Int) - b.units).natAbs 1 < limit := by
    by_cases less : a.units ≤ b.units
    · exact Nat.lt_of_le_of_lt (nearest_le (by decide) b.onGrid (by omega)) b.inRange
    · exact Nat.lt_of_le_of_lt (nearest_le (by decide) a.onGrid (by omega)) a.inRange
  simp only [add, signed, Bool.false_eq_true, if_false, if_true, ← Int.sub_eq_add_neg, ofUnits, dif_pos inRange, abs, position]

/-- Between numbers that are no less than two, the computed distance is exact up to four, and no
less than four beyond. -/
theorem nearest_apart {a b : Magnitude} (large : 2 * one ≤ a.units) (largeToo : 2 * one ≤ b.units) :
    (apart (finite false a) (finite false b) ≤ 4 * one →
      nearest (apart (finite false a) (finite false b)) 1 = apart (finite false a) (finite false b)) ∧
    (4 * one ≤ apart (finite false a) (finite false b) →
      4 * one ≤ nearest (apart (finite false a) (finite false b)) 1) := by
  have two : 2 * one = 2 ^ (1023 + 52) := by decide +kernel
  have four : 4 * one = 2 ^ (1023 + 53) := by decide +kernel
  rw [two] at large largeToo
  rw [four]
  constructor
  · intro near
    exact nearest_of_onGrid (onGrid_natAbs_sub a.onGrid b.onGrid large largeToo near)
  · intro far
    refine le_nearest (by decide) ?_ (by rwa [Nat.mul_one])
    rw [← Nat.one_shiftLeft]
    exact onGrid_of_le _ (by decide)

end Handoff.Binary64
