import Handoff.Binary64.Basic

/-!
Arithmetic on binary64 numbers. Each operation computes the exact result in units and rounds it
once.
-/
namespace Handoff.Binary64

def neg : Binary64 → Binary64
  | .nan => .nan
  | .infinite negative => .infinite (!negative)
  | .finite negative magnitude => .finite (!negative) magnitude

def abs : Binary64 → Binary64
  | .nan => .nan
  | .infinite _ => .infinite false
  | .finite _ magnitude => .finite false magnitude

/-- Sums that cancel are positive zero unless both terms are negative zeros. -/
def add : Binary64 → Binary64 → Binary64
  | .nan, _ => .nan
  | _, .nan => .nan
  | .infinite m, .infinite n => if m = n then .infinite m else .nan
  | .infinite m, .finite _ _ => .infinite m
  | .finite _ _, .infinite n => .infinite n
  | .finite m a, .finite n b =>
    let sum := signed m a.units + signed n b.units
    ofUnits (if sum = 0 then m && n else decide (sum < 0)) sum.natAbs 1

def sub (a b : Binary64) : Binary64 := add a b.neg

def mul : Binary64 → Binary64 → Binary64
  | .nan, _ => .nan
  | _, .nan => .nan
  | .infinite m, .infinite n => .infinite (m != n)
  | .infinite m, .finite n b => if b.units = 0 then .nan else .infinite (m != n)
  | .finite m a, .infinite n => if a.units = 0 then .nan else .infinite (m != n)
  | .finite m a, .finite n b => ofUnits (m != n) (a.units * b.units) one

def div : Binary64 → Binary64 → Binary64
  | .nan, _ => .nan
  | _, .nan => .nan
  | .infinite _, .infinite _ => .nan
  | .infinite m, .finite n _ => .infinite (m != n)
  | .finite m _, .infinite n => ofUnits (m != n) 0 1
  | .finite m a, .finite n b =>
    if b.units = 0 then
      if a.units = 0 then .nan else .infinite (m != n)
    else ofUnits (m != n) (a.units * one) b.units

instance : Neg Binary64 := ⟨neg⟩
instance : Add Binary64 := ⟨add⟩
instance : Sub Binary64 := ⟨sub⟩
instance : Mul Binary64 := ⟨mul⟩
instance : Div Binary64 := ⟨div⟩

/-- The square root. The whole root is followed by a half unit when a remainder is left, which is
enough to round the real root. -/
def sqrt : Binary64 → Binary64
  | .nan => .nan
  | .infinite negative => if negative then .nan else .infinite false
  | .finite negative magnitude =>
    if magnitude.units = 0 then .finite negative magnitude
    else if negative then .nan
    else
      let square := magnitude.units * one
      let root := square.sqrt
      ofUnits false (2 * root + if root * root < square then 1 else 0) 2

/-- The nearest whole number of ones, a half going away from zero. -/
def wholeOnes (units : Nat) : Nat := (2 * units + one) / (2 * one)

/-- The nearest whole number, a half going away from zero. The sign stays, also on zero. -/
def round : Binary64 → Binary64
  | .finite negative magnitude => ofUnits negative (wholeOnes magnitude.units * one) 1
  | other => other

/-- The nearest whole number as an integer held within bounds. What is not a number is zero. -/
def roundToInt (low high : Int) : Binary64 → Int
  | .nan => 0
  | .infinite negative => if negative then low else high
  | .finite negative magnitude =>
    max low (min high (signed negative (wholeOnes magnitude.units)))

/-- A number held within bounds. A number equal to a bound is left alone, so a zero keeps its
sign. -/
def clamp (low high value : Binary64) : Binary64 :=
  if value < low then low else if high < value then high else value

end Handoff.Binary64
