import Handoff.Binary64.Basic

/-!
Decimal text of binary64 numbers: the value of a decimal, and the shortest decimal that reads back
to a number. Main statement: the decimal chosen for a magnitude reads back to it, since every
candidate is read back before it is chosen.
-/
namespace Handoff

/-- The quantity `digits * 10 ^ exponent`. -/
structure Decimal where
  digits : Nat
  exponent : Int
  deriving DecidableEq

namespace Decimal

/-- The same quantity without trailing zeros, the steps bounded by `fuel`. -/
def trimZeros : Nat → Decimal → Decimal
  | 0, d => d
  | fuel + 1, d =>
    if d.digits ≠ 0 ∧ d.digits % 10 = 0 then trimZeros fuel ⟨d.digits / 10, d.exponent + 1⟩ else d

end Decimal

namespace Binary64

/-- The number nearest to a decimal. Exponents far outside the range are answered without computing
their power of ten. -/
def ofDecimal (negative : Bool) (d : Decimal) : Binary64 :=
  if d.digits = 0 then ofUnits negative 0 1
  else if 400 < d.exponent then .infinite negative
  else if d.exponent < -(400 + (d.digits.log2 : Int)) then ofUnits negative 0 1
  else if 0 ≤ d.exponent then ofUnits negative (d.digits * Nat.pow 10 d.exponent.toNat * one) 1
  else ofUnits negative (d.digits * one) (Nat.pow 10 (-d.exponent).toNat)

instance : OfScientific Binary64 where
  ofScientific digits negativeExponent exponent :=
    ofDecimal false ⟨digits, if negativeExponent then -exponent else exponent⟩

/-- Which of two equally near decimals is written. -/
inductive Tie where
  | even
  | up
  deriving DecidableEq

end Binary64

namespace Magnitude

/-- The magnitude written out in full. A unit is `5 ^ 1074 * 10 ^ -1074`. -/
def exactDecimal (m : Magnitude) : Decimal := ⟨m.units * Nat.pow 5 1074, -1074⟩

def readsBack (m : Magnitude) (d : Decimal) : Bool :=
  decide (Binary64.ofDecimal false d = .finite false m)

/-- The neighbours of a magnitude among the decimals of `count` digits, the nearer one first. -/
def neighbours (tie : Binary64.Tie) (exact : Decimal) (length count : Nat) : List Decimal :=
  let dropped := length - count
  let step := Nat.pow 10 dropped
  let low := exact.digits / step
  let rest := exact.digits % step
  let scaled (digits : Nat) := Decimal.trimZeros 20 ⟨digits, exact.exponent + dropped⟩
  let lowFirst :=
    if 2 * rest = step then
      match tie with
      | .even => low % 2 = 0
      | .up => false
    else decide (2 * rest < step)
  if lowFirst then [scaled low, scaled (low + 1)] else [scaled (low + 1), scaled low]

/-- The decimal with the fewest digits that reads back to a magnitude, the nearest of those. -/
def shortest (tie : Binary64.Tie) (m : Magnitude) : Decimal :=
  let exact := m.exactDecimal
  let length := exact.digits.repr.length
  let attempt (i : Nat) := (neighbours tie exact length (i + 1)).find? m.readsBack
  ((List.range 17).findSome? attempt).getD exact

theorem readsBack_shortest {tie : Binary64.Tie} {m : Magnitude}
    (exact : m.readsBack m.exactDecimal = true) : m.readsBack (m.shortest tie) = true := by
  unfold shortest
  dsimp only
  cases found : List.findSome? _ (List.range 17) with
  | none => simpa using exact
  | some d =>
    obtain ⟨i, _, hit⟩ := List.exists_of_findSome?_eq_some found
    exact List.find?_some hit

end Magnitude

end Handoff
