import Handoff.Json.Token

/-!
Reading JSON text. The tokens are taken one at a time while the open arrays and objects wait on a
stack, so a text may nest to any depth.
-/
namespace Handoff.Json

/-- An array or object that waits for its next value. What it holds so far is in reverse. -/
inductive Frame where
  | array (items : List Json)
  | object (members : List (Option String × Json)) (name : Option String)

/-- What the next token may be. -/
inductive Expectation where
  /-- A value. -/
  | value
  /-- The first value of an array, or its end. -/
  | firstItem
  /-- The first name of an object, or its end. -/
  | firstName
  /-- The next name of an object whose members so far are given in reverse. -/
  | name (members : List (Option String × Json))
  /-- The colon after a name. -/
  | colon (members : List (Option String × Json)) (name : Option String)
  /-- What follows a value that has been read. -/
  | after (value : Json)

def startValue (stack : List Frame) : Token → Option (Expectation × List Frame)
  | .null => some (.after .null, stack)
  | .bool value => some (.after (.bool value), stack)
  | .number value => some (.after (.number value), stack)
  | .string value => some (.after (.string value), stack)
  | .openArray => some (.firstItem, stack)
  | .openObject => some (.firstName, stack)
  | _ => none

def step : Expectation → List Frame → Token → Option (Expectation × List Frame)
  | .value, stack, token => startValue stack token
  | .firstItem, stack, .closeArray => some (.after (.array []), stack)
  | .firstItem, stack, token => startValue (.array [] :: stack) token
  | .firstName, stack, .closeObject => some (.after (.object []), stack)
  | .firstName, stack, .string name => some (.colon [] name, stack)
  | .name members, stack, .string name => some (.colon members name, stack)
  | .colon members name, stack, .colon => some (.value, .object members name :: stack)
  | .after value, .array items :: stack, .comma => some (.value, .array (value :: items) :: stack)
  | .after value, .array items :: stack, .closeArray =>
    some (.after (.array (value :: items).reverse), stack)
  | .after value, .object members name :: stack, .comma =>
    some (.name ((name, value) :: members), stack)
  | .after value, .object members name :: stack, .closeObject =>
    some (.after (.object ((name, value) :: members).reverse), stack)
  | _, _, _ => none

/-- Takes the remaining tokens of a text, which end after a value when nothing waits for it. -/
def build : Expectation → List Frame → List Token → Option Json
  | .after value, [], [] => some value
  | _, _, [] => none
  | expected, stack, token :: rest =>
    match step expected stack token with
    | some (expected, stack) => build expected stack rest
    | none => none

/-- The value of a JSON text, if it is one. -/
def parse (s : String) : Option Json := do
  let tokens ← tokens s.toList
  build .value [] tokens

end Handoff.Json
