import Handoff.Json.Reader
import Handoff.OrderedMap

/-!
Decoding JSON values into domain values. A decoder is told how many arrays and objects may still be
opened, so that a document nests to a bounded depth. What a record does not ask for is not looked
at.
-/
namespace Handoff.Json

/-- A reader of values, given how many arrays and objects may still be opened. -/
abbrev Decoder (α : Type) := Nat → Json → Option α

/-- How many arrays and objects a document may have open at once. -/
def depthLimit : Nat := 127

def decodeText {α : Type} (decoder : Decoder α) (s : String) : Option α := do
  let json ← parse s
  decoder depthLimit json

namespace Decoder

variable {α : Type}

def bool : Decoder Bool
  | _, .bool value => some value
  | _, _ => none

def text : Decoder String
  | _, .string value => value
  | _, _ => none

def binary64 : Decoder Binary64
  | _, .number value => if value.toBinary64.isFinite then some value.toBinary64 else none
  | _, _ => none

/-- A whole number below a bound, written without a fraction or an exponent. -/
def natBelow (bound : Nat) : Decoder Nat
  | _, .number (.integer value) =>
    if 0 ≤ value ∧ value < bound then some value.toNat else none
  | _, _ => none

def nullable (decoder : Decoder α) : Decoder (Option α)
  | _, .null => some none
  | depth, json => (decoder depth json).map some

def list (decoder : Decoder α) : Decoder (List α)
  | depth + 1, .array items => items.mapM (decoder depth)
  | _, _ => none

/-- An object read as a map: a repeated key keeps its first place and its last value. -/
def map (decoder : Decoder α) : Decoder (OrderedMap String α)
  | depth + 1, .object members => do
    let pairs ← members.mapM fun (key, value) => do
      let key ← key
      let value ← decoder depth value
      return (key, value)
    return OrderedMap.ofList pairs
  | _, _ => none

/-- The name of a case: a string, or an object whose only member has the name and no value. -/
def caseName : Decoder String
  | _, .string name => name
  | _ + 1, .object [(name, .null)] => name
  | _, _ => none

end Decoder

/-- The fields of a record that were written down. -/
structure Record where
  /-- Whether they were written as an array, without names. -/
  positional : Bool
  fields : List (String × Json)
  /-- How many arrays and objects may still be opened inside. -/
  depth : Nat

namespace Record

/-- The members with known names, each of which may be written once. -/
def named (names : List String) (members : List (Option String × Json)) :
    Option (List (String × Json)) :=
  members.foldlM (fun fields (name, value) => do
    let name ← name
    if name ∈ names then
      if fields.any (·.1 = name) then none else return fields ++ [(name, value)]
    else return fields) []

/-- Opens a record with the given field names, written as an object or as an array of its fields in
their order. -/
def open? (names : List String) : Decoder Record
  | depth + 1, .object members => do
    let fields ← named names members
    return ⟨false, fields, depth⟩
  | depth + 1, .array items =>
    if items.length ≤ names.length then some ⟨true, names.zip items, depth⟩ else none
  | _, _ => none

variable {α : Type}

def find? (record : Record) (name : String) : Option Json :=
  (record.fields.find? (·.1 = name)).map Prod.snd

def required (record : Record) (name : String) (decoder : Decoder α) : Option α := do
  let json ← record.find? name
  decoder record.depth json

def defaulted (record : Record) (name : String) (default : α) (decoder : Decoder α) : Option α :=
  match record.find? name with
  | some json => decoder record.depth json
  | none => some default

/-- A field that may be null or left out. -/
def optional (record : Record) (name : String) (decoder : Decoder α) : Option (Option α) :=
  record.defaulted name none decoder.nullable

/-- A field that may be null, and may be left out where fields have names. -/
def nullable (record : Record) (name : String) (decoder : Decoder α) : Option (Option α) :=
  if record.positional then record.required name decoder.nullable else record.optional name decoder

end Record

mutual

/-- Whether a value keeps to every rule of a document: its depth, its numbers and its texts. -/
def isStrict : Nat → Json → Bool
  | _, .null => true
  | _, .bool _ => true
  | _, .number value => value.toBinary64.isFinite
  | _, .string value => value.isSome
  | depth, .array items => decide (0 < depth) && allStrict (depth - 1) items
  | depth, .object members => decide (0 < depth) && membersStrict (depth - 1) members

def allStrict : Nat → List Json → Bool
  | _, [] => true
  | depth, item :: items => isStrict depth item && allStrict depth items

def membersStrict : Nat → List (Option String × Json) → Bool
  | _, [] => true
  | depth, (name, value) :: members =>
    name.isSome && isStrict depth value && membersStrict depth members

end

end Handoff.Json
