import Handoff.Binary64.Arithmetic
import Handoff.Text.Escape

/-!
Colours with red, green and blue channels and an opacity. The hexadecimal form is computed from the
channels, so it never disagrees with them.
-/
namespace Handoff

/-- An sRGB colour. -/
structure Color where
  red : UInt8
  green : UInt8
  blue : UInt8
  alpha : Binary64
  alpha_mem : 0 ≤ alpha ∧ alpha ≤ 1
  deriving DecidableEq

namespace Color

/-- An opacity brought into the unit interval; what is not a number counts as opaque. -/
def unitAlpha (alpha : Binary64) : Binary64 :=
  if 0 ≤ alpha ∧ alpha ≤ 1 then alpha else if alpha < 0 then 0 else 1

theorem unitAlpha_mem (alpha : Binary64) : 0 ≤ unitAlpha alpha ∧ unitAlpha alpha ≤ 1 := by
  unfold unitAlpha
  split
  · assumption
  · split <;> decide +kernel

def rgba (red green blue : UInt8) (alpha : Binary64) : Color :=
  ⟨red, green, blue, unitAlpha alpha, unitAlpha_mem alpha⟩

def rgb (red green blue : UInt8) : Color := rgba red green blue 1

/-- The 8-bit channel of a channel on the unit interval. -/
def channel (unit : Binary64) : UInt8 :=
  UInt8.ofNat (Binary64.roundToInt 0 255 (Binary64.clamp 0 1 unit * 255)).toNat

def ofUnit (red green blue alpha : Binary64) : Color :=
  rgba (channel red) (channel green) (channel blue) alpha

def hexChannel? (high low : Char) : Option UInt8 :=
  (Text.hexNumber? [high, low]).map UInt8.ofNat

/-- The colour of six hexadecimal digits, which a number sign may precede. -/
def ofHex? (s : String) : Option Color :=
  let digits := match s.toList with
    | '#' :: rest => rest
    | digits => digits
  match digits with
  | [a, b, c, d, e, f] => do
    let red ← hexChannel? a b
    let green ← hexChannel? c d
    let blue ← hexChannel? e f
    return rgb red green blue
  | _ => none

/-- Six lower-case hexadecimal digits. -/
def hex (color : Color) : String :=
  String.ofList
    ([color.red, color.green, color.blue].flatMap fun channel => Text.hexPair channel.toNat)

def isTranslucent (color : Color) : Bool := color.alpha < 1

def squaredGap (a b : UInt8) : Nat :=
  let gap := (a.toNat : Int) - b.toNat
  (gap * gap).toNat

/-- The square of the distance between two colours as points, whatever their opacity. -/
def squaredDistance (a b : Color) : Nat :=
  squaredGap a.red b.red + squaredGap a.green b.green + squaredGap a.blue b.blue

/-- The distance between two colours as points, whatever their opacity. -/
def distance (a b : Color) : Binary64 := (Binary64.ofNat (squaredDistance a b)).sqrt

end Color

end Handoff
