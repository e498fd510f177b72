import Handoff.Binary64.Text
import Handoff.Json.Basic
import Handoff.Text.Escape

/-!
Writing JSON text, on one line or spread over indented lines. The two differ only in the white space
between tokens.
-/
namespace Handoff

/-- The text of a number. One that is not finite has no JSON form and is written as null. -/
def Numeral.write : Numeral → String
  | .integer value => toString value
  | .real value => if value.isFinite then Binary64.documentLayout.write value else "null"

namespace Json

/-- A character inside a string. Only quotes, backslashes and control characters are escaped. -/
def escapeChar (c : Char) : List Char :=
  if c = '"' then ['\\', '"']
  else if c = '\\' then ['\\', '\\']
  else if c = '\x08' then ['\\', 'b']
  else if c = '\x0c' then ['\\', 'f']
  else if c = '\n' then ['\\', 'n']
  else if c = '\r' then ['\\', 'r']
  else if c = '\t' then ['\\', 't']
  else if c.toNat < 0x20 then ['\\', 'u', '0', '0'] ++ Text.hexPair c.toNat
  else [c]

/-- A string with its quotes. One that denotes no text is written as half a surrogate pair. -/
def quote : Option String → String
  | some s => "\"" ++ String.ofList (s.toList.flatMap escapeChar) ++ "\""
  | none => "\"\\ud800\""

/-- The white space of a text: what stands before an item or a closing bracket at a level, and what
separates a name from its value. -/
structure Spacing where
  newLine : Nat → String
  colon : String

def Spacing.compact : Spacing := ⟨fun _ => "", ":"⟩

/-- Every item on its own line, indented by two spaces a level. -/
def Spacing.pretty : Spacing :=
  ⟨fun level => "\n" ++ String.ofList (List.replicate (2 * level) ' '), ": "⟩

mutual

def write (spacing : Spacing) (level : Nat) : Json → String
  | .null => "null"
  | .bool value => if value then "true" else "false"
  | .number value => value.write
  | .string value => quote value
  | .array [] => "[]"
  | .array (item :: items) =>
    "[" ++ spacing.newLine (level + 1) ++ write spacing (level + 1) item
      ++ writeItems spacing (level + 1) items ++ spacing.newLine level ++ "]"
  | .object [] => "\x7b\x7d"
  | .object ((name, value) :: members) =>
    "\x7b" ++ spacing.newLine (level + 1) ++ quote name ++ spacing.colon
      ++ write spacing (level + 1) value ++ writeMembers spacing (level + 1) members
      ++ spacing.newLine level ++ "\x7d"

def writeItems (spacing : Spacing) (level : Nat) : List Json → String
  | [] => ""
  | item :: items =>
    "," ++ spacing.newLine level ++ write spacing level item ++ writeItems spacing level items

def writeMembers (spacing : Spacing) (level : Nat) : List (Option String × Json) → String
  | [] => ""
  | (name, value) :: members =>
    "," ++ spacing.newLine level ++ quote name ++ spacing.colon ++ write spacing level value
      ++ writeMembers spacing level members

end

def compact (json : Json) : String := write .compact 0 json

def pretty (json : Json) : String := write .pretty 0 json

end Json

end Handoff
