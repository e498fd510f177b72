/-!
Characters that may not stand for themselves. A table says how each of them is written, and every
other character is written as it is; numbers of characters and bytes have hexadecimal digits.
-/
namespace Handoff.Text

abbrev EscapeTable := List (Char × String)

def escapeChar (table : EscapeTable) (c : Char) : List Char :=
  match table.find? (·.1 = c) with
  | some (_, written) => written.toList
  | none => [c]

/-- Text with the table's characters written as the table says. -/
def escape (table : EscapeTable) (s : String) : String :=
  String.ofList (s.toList.flatMap (escapeChar table))

/-! Hexadecimal digits of either case, and pairs of them -/

def hexValue? (c : Char) : Option Nat :=
  if c.isDigit then some (c.toNat - '0'.toNat)
  else if 'a' ≤ c ∧ c ≤ 'f' then some (c.toNat - 'a'.toNat + 10)
  else if 'A' ≤ c ∧ c ≤ 'F' then some (c.toNat - 'A'.toNat + 10)
  else none

def hexNumber? (digits : List Char) : Option Nat :=
  digits.foldlM (fun n c => (hexValue? c).map (n * 16 + ·)) 0

/-- A byte as two lower-case digits. -/
def hexPair (byte : Nat) : List Char := [Nat.digitChar (byte / 16), Nat.digitChar (byte % 16)]

end Handoff.Text
