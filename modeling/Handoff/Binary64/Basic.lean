/-!
Binary64 numbers as exact quantities. Every finite number is a whole number of units of `2 ^ -1074`,
so values are compared and computed with integers, and a result is brought back to the grid by one
rounding function. Main statement: what `nearest` returns lies on the grid.
-/
namespace Handoff

namespace Binary64

/-- One is this many units. -/
def one : Nat := 1 <<< 1074

/-- The first magnitude past the largest finite number, in units. -/
def limit : Nat := 1 <<< 2098

/-- A magnitude lies on the grid when 53 significant bits hold it. -/
def OnGrid (units : Nat) : Prop :=
  ∃ mantissa shift, mantissa < 1 <<< 53 ∧ units = mantissa <<< shift

/-- The exponent of the grid's spacing around a magnitude. -/
def spacing (units : Nat) : Nat := units.log2 - 52

/-- The multiple of `2 ^ shift` nearest to `num / den`, a tie going to the even multiple. -/
def nearestMultiple (num den shift : Nat) : Nat :=
  let step := den <<< shift
  let low := num / step
  let rest := num % step
  if 2 * rest < step then low
  else if step < 2 * rest then low + 1
  else low + low % 2

/-- The grid magnitude nearest to `num / den` units, with no upper limit. -/
def nearest (num den : Nat) : Nat :=
  let shift := spacing (num / den)
  nearestMultiple num den shift <<< shift

theorem nearestMultiple_le (num den shift : Nat) :
    nearestMultiple num den shift ≤ num / (den <<< shift) + 1 := by
  unfold nearestMultiple
  dsimp only
  split
  · omega
  · split <;> omega

theorem onGrid_of_le {mantissa : Nat} (shift : Nat) (bound : mantissa ≤ 1 <<< 53) :
    OnGrid (mantissa <<< shift) := by
  rcases Nat.lt_or_eq_of_le bound with small | full
  · exact ⟨mantissa, shift, small, rfl⟩
  · exact ⟨1, 53 + shift, by decide, by rw [full, Nat.shiftLeft_add]⟩

theorem quotient_lt (num den : Nat) :
    num / (den <<< spacing (num / den)) < 1 <<< 53 := by
  rw [Nat.shiftLeft_eq, Nat.shiftLeft_eq, Nat.one_mul, ← Nat.div_div_eq_div_mul,
    Nat.div_lt_iff_lt_mul (Nat.two_pow_pos _), ← Nat.pow_add]
  refine Nat.lt_of_lt_of_le Nat.lt_log2_self (Nat.pow_le_pow_right (by decide) ?_)
  unfold spacing
  omega

/-- Rounding ends on the grid. -/
theorem onGrid_nearest (num den : Nat) : OnGrid (nearest num den) := by
  refine onGrid_of_le _ (Nat.le_trans (nearestMultiple_le _ _ _) ?_)
  exact quotient_lt num den

end Binary64

/-- A magnitude that a finite binary64 number can have. -/
structure Magnitude where
  units : Nat
  onGrid : Binary64.OnGrid units
  inRange : units < Binary64.limit
  deriving DecidableEq

/-- A binary64 number. Zero has both signs. -/
inductive Binary64 where
  | nan
  | infinite (negative : Bool)
  | finite (negative : Bool) (magnitude : Magnitude)
  deriving DecidableEq

namespace Binary64

/-- The number nearest to `num / den` units; a magnitude past the range is infinite. -/
def ofUnits (negative : Bool) (num den : Nat) : Binary64 :=
  if inRange : nearest num den < limit then
    .finite negative ⟨nearest num den, onGrid_nearest num den, inRange⟩
  else
    .infinite negative

def ofInt (i : Int) : Binary64 := ofUnits (decide (i < 0)) (i.natAbs * one) 1

def ofNat (n : Nat) : Binary64 := ofUnits false (n * one) 1

instance (n : Nat) : OfNat Binary64 n := ⟨ofNat n⟩

instance : Inhabited Binary64 := ⟨0⟩

def signed (negative : Bool) (units : Nat) : Int :=
  if negative then -units else units

/-- Where a number stands on the line, in units. The infinities stand at the range's ends, and a
value that is not a number stands nowhere. -/
def position : Binary64 → Option Int
  | .nan => none
  | .infinite negative => some (signed negative limit)
  | .finite negative magnitude => some (signed negative magnitude.units)

/-- Whether two positions exist and stand in a relation. -/
def related (rel : Int → Int → Bool) (a b : Binary64) : Bool :=
  match a.position, b.position with
  | some x, some y => rel x y
  | _, _ => false

instance : LT Binary64 := ⟨fun a b => related (fun x y => decide (x < y)) a b⟩
instance : LE Binary64 := ⟨fun a b => related (fun x y => decide (x ≤ y)) a b⟩

instance (a b : Binary64) : Decidable (a < b) :=
  inferInstanceAs (Decidable (related _ a b = true))

instance (a b : Binary64) : Decidable (a ≤ b) :=
  inferInstanceAs (Decidable (related _ a b = true))

/-- Numeric equality: the zeros are equal and what is not a number equals nothing. -/
def equals (a b : Binary64) : Bool := related (fun x y => x == y) a b

def isFinite : Binary64 → Bool
  | .finite _ _ => true
  | _ => false

end Binary64

end Handoff
