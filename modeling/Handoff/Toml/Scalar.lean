import Handoff.Binary64.Decimal
import Handoff.Text.Escape
import Handoff.Text.Parts
import Handoff.Toml.Basic
import Handoff.Toml.Moment

/-!
Values written as words: truth values, moments, integers and floating-point numbers. Digits may be
grouped by underscores.
-/
namespace Handoff.Toml

/-- Digits without the underscores between them. -/
def ungroup? (isDigit : Char → Bool) (chars : List Char) : Option (List Char) :=
  let groups := Text.split '_' chars
  if groups.all fun group => !group.isEmpty && group.all isDigit then some groups.flatten else none

def isDigitOf (base : Nat) (c : Char) : Bool :=
  match Text.hexValue? c with
  | some value => value < base
  | none => false

def numberOf (base : Nat) (digits : List Char) : Nat :=
  digits.foldl (fun n c => n * base + (Text.hexValue? c).getD 0) 0

/-- Digits of a base, grouped or not, as a number. -/
def natural? (base : Nat) (chars : List Char) : Option Nat :=
  (ungroup? (isDigitOf base) chars).map (numberOf base)

/-- Decimal digits that do not start with a needless zero. -/
def whole? (chars : List Char) : Option (List Char) := do
  let digits ← ungroup? Char.isDigit chars
  match digits with
  | '0' :: _ :: _ => none
  | _ => some digits

def sign : List Char → Bool × List Char
  | '-' :: rest => (true, rest)
  | '+' :: rest => (false, rest)
  | chars => (false, chars)

/-- What stands before and after the first character of a kind. -/
def cutAt (p : Char → Bool) (chars : List Char) : List Char × Option (List Char) :=
  match chars.dropWhile (!p ·) with
  | [] => (chars, none)
  | _ :: rest => (chars.takeWhile (!p ·), some rest)

def exponent? (chars : List Char) : Option Int := do
  let (negative, chars) := sign chars
  let digits ← ungroup? Char.isDigit chars
  return Binary64.signed negative (numberOf 10 digits)

/-- A floating-point number with a fraction, an exponent or both. It must not be too large. -/
def real? (negative : Bool) (chars : List Char) : Option Binary64 := do
  let (mantissa, exponent) := cutAt (fun c => c == 'e' || c == 'E') chars
  let (whole, fraction) := cutAt (· == '.') mantissa
  let whole ← whole? whole
  let fraction ← match fraction with
    | some digits => ungroup? Char.isDigit digits
    | none => some []
  let exponent ← match exponent with
    | some chars => exponent? chars
    | none => some 0
  let value := Binary64.ofDecimal negative
    ⟨numberOf 10 (whole ++ fraction), exponent - fraction.length⟩
  if value.isFinite then some value else none

def bases : List (List Char × Nat) := [(['0', 'x'], 16), (['0', 'o'], 8), (['0', 'b'], 2)]

/-- A number. Numbers in other bases than ten have no sign. -/
def number? (chars : List Char) : Option Value :=
  match bases.find? fun base => base.1.isPrefixOf chars with
  | some (leading, base) =>
    (natural? base (chars.drop leading.length)).map fun n => .integer n
  | none =>
    let (negative, magnitude) := sign chars
    if magnitude = ['i', 'n', 'f'] then some (.real (.infinite negative))
    else if magnitude = ['n', 'a', 'n'] then some (.real .nan)
    else if magnitude.any fun c => c == '.' || c == 'e' || c == 'E' then
      (real? negative magnitude).map .real
    else
      (whole? magnitude).map fun digits =>
        .integer (Binary64.signed negative (numberOf 10 digits))

def scalar? (chars : List Char) : Option Value :=
  if chars = "true".toList then some (.bool true)
  else if chars = "false".toList then some (.bool false)
  else if isMoment chars then some (.moment (String.ofList chars))
  else number? chars

end Handoff.Toml
