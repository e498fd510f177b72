import Handoff.Binary64.Decimal

/-!
JSON values as they are written. Nothing that a text says is lost before a reader decides what to
accept: members keep their order and repeated names, a string may denote no text, and a number may
be too large to be finite.
-/
namespace Handoff

/-- A number of a JSON text. Whole numbers of 64 bits written without a fraction or an exponent stay
integers; any other number is the binary64 number nearest to it. -/
inductive Numeral where
  | integer (value : Int)
  | real (value : Binary64)
  deriving DecidableEq

/-- A JSON value. A string denotes no text when its escapes name half of a surrogate pair alone. -/
inductive Json where
  | null
  | bool (value : Bool)
  | number (value : Numeral)
  | string (value : Option String)
  | array (items : List Json)
  | object (members : List (Option String × Json))

namespace Numeral

/-- Whether an integer is held in 64 bits, with or without a sign. -/
def Holds64 (i : Int) : Prop :=
  -9223372036854775808 ≤ i ∧ i < 18446744073709551616

instance (i : Int) : Decidable (Holds64 i) := inferInstanceAs (Decidable (_ ∧ _))

def toBinary64 : Numeral → Binary64
  | .integer value => Binary64.ofInt value
  | .real value => value

/-- The numeral of a written number: its sign, the digits before and after the point, and the
exponent if one is written. A negative zero has no integer form. -/
def ofWritten (negative : Bool) (whole fraction : Nat) (places : Nat) (exponent : Option Int) :
    Numeral :=
  let real (digits : Nat) (exponent : Int) :=
    Numeral.real (Binary64.ofDecimal negative ⟨digits, exponent⟩)
  if places = 0 ∧ exponent = none then
    let value := Binary64.signed negative whole
    if Holds64 value ∧ ¬(negative ∧ whole = 0) then .integer value else real whole 0
  else real (whole * Nat.pow 10 places + fraction) (exponent.getD 0 - places)

end Numeral

namespace Json

def text (s : String) : Json := .string (some s)

def integer (i : Int) : Json := .number (.integer i)

def real (x : Binary64) : Json := .number (.real x)

def record (members : List (String × Json)) : Json :=
  .object (members.map fun (name, value) => (some name, value))

end Json

end Handoff
