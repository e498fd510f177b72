import Handoff.Binary64.Decimal

/-!
Written forms of numbers. A number's decimal is laid out by a record of the format's decisions, and
two such records are used: one for documents and one for class names and messages.
-/
namespace Handoff

namespace Decimal

def digitText (d : Decimal) : String := d.digits.repr

/-- The power of ten of the leading digit. -/
def leadingExponent (d : Decimal) : Int := (d.digitText.length : Int) - 1 + d.exponent

def zeros (count : Nat) : String := String.ofList (List.replicate count '0')

/-- Digits with the point where it belongs, and `wholeSuffix` after a whole number. -/
def positional (d : Decimal) (wholeSuffix : String) : String :=
  let digits := d.digitText.toList
  if 0 ≤ d.exponent then
    d.digitText ++ zeros d.exponent.toNat ++ wholeSuffix
  else
    let places := (-d.exponent).toNat
    if places < digits.length then
      String.ofList (digits.take (digits.length - places)) ++ "."
        ++ String.ofList (digits.drop (digits.length - places))
    else "0." ++ zeros (places - digits.length) ++ d.digitText

/-- One digit before the point and a signed exponent after the rest. -/
def scientific (d : Decimal) : String :=
  let exponent := d.leadingExponent
  let mantissa := match d.digitText.toList with
    | [] => ""
    | [digit] => String.singleton digit
    | digit :: rest => String.singleton digit ++ "." ++ String.ofList rest
  mantissa ++ "e" ++ (if 0 ≤ exponent then "+" else "-") ++ exponent.natAbs.repr

end Decimal

namespace Binary64

/-- What a written form decides beyond the digits. -/
structure TextLayout where
  tie : Tie
  /-- The leading exponents written without an exponent part. All are when none is given. -/
  positionalRange : Option (Int × Int)
  wholeSuffix : String

/-- Documents keep a point in every number and write very small and very large ones with an
exponent. -/
def documentLayout : TextLayout := ⟨.even, some (-5, 15), ".0"⟩

/-- Class names and messages never have an exponent and write whole numbers without a point. -/
def plainLayout : TextLayout := ⟨.up, none, ""⟩

def TextLayout.writeDecimal (layout : TextLayout) (d : Decimal) : String :=
  match layout.positionalRange with
  | none => d.positional layout.wholeSuffix
  | some (low, high) =>
    if low ≤ d.leadingExponent ∧ d.leadingExponent ≤ high then d.positional layout.wholeSuffix
    else d.scientific

def TextLayout.write (layout : TextLayout) : Binary64 → String
  | .nan => "NaN"
  | .infinite negative => if negative then "-inf" else "inf"
  | .finite negative magnitude =>
    (if negative then "-" else "") ++
      if magnitude.units = 0 then layout.writeDecimal ⟨0, 0⟩
      else layout.writeDecimal (magnitude.shortest layout.tie)

/-- The form of a number in class names and messages. -/
def plain (x : Binary64) : String := plainLayout.write x

end Binary64

end Handoff
