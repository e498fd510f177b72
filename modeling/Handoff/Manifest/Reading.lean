import Handoff.FileTree
import Handoff.Manifest.Flaw
import Handoff.Toml.Reader

/-!
Reading manifests. Unknown keys are refused; a record may also be written as an array of its values.
-/
namespace Handoff.Manifest

open Toml (Value)

abbrev Decoder (α : Type) := Value → Option α

def asText : Decoder String
  | .text value => some value
  | _ => none

def asBool : Decoder Bool
  | .bool value => some value
  | _ => none

/-- A whole number of 64 bits without a sign. -/
def asNat : Decoder Nat
  | .integer value => if 0 ≤ value ∧ value < 18446744073709551616 then some value.toNat else none
  | _ => none

/-- A number, which needs no fraction. -/
def asReal : Decoder Binary64
  | .real value => some value
  | .integer value =>
    if -9223372036854775808 ≤ value ∧ value < 18446744073709551616 then
      some (Binary64.ofInt value) else none
  | _ => none

def asList {α : Type} (decoder : Decoder α) : Decoder (List α)
  | .array items => items.mapM decoder
  | .tables latestFirst => latestFirst.reverse.mapM fun entries => decoder (.table .header entries)
  | _ => none

/-- The name of a choice: a text, or a table with nothing under the name. -/
def asCaseName : Decoder String
  | .text value => some value
  | .table _ [(name, .table _ [])] => some name
  | .table _ [(name, .array [])] => some name
  | _ => none

def asChoice {α : Type} [Named α] : Decoder α := fun value => do
  Named.ofName? (← asCaseName value)

/-- The fields of a record that were written down. -/
abbrev Fields := List (String × Value)

/-- The fields of a record with known names, or in the order of the names. -/
def fields? (names : List String) : Decoder Fields
  | .table _ entries => if entries.all fun entry => entry.1 ∈ names then some entries else none
  | .array items => some (names.zip items)
  | .tables latestFirst => some (names.zip (latestFirst.reverse.map (.table .header)))
  | _ => none

def required {α : Type} (fields : Fields) (name : String) (decoder : Decoder α) : Option α := do
  decoder (← Toml.Entries.find? fields name)

def defaulted {α : Type} (fields : Fields) (name : String) (default : α) (decoder : Decoder α) :
    Option α :=
  match Toml.Entries.find? fields name with
  | some value => decoder value
  | none => some default

def asSource : Decoder Source := fun value => do
  let fields ← fields? ["file_key", "node_id", "token_env", "base_url", "cache_ttl_secs"] value
  return {
    fileKey := ← required fields "file_key" asText
    nodeId := ← required fields "node_id" asText
    tokenVariable := ← defaulted fields "token_env" defaultTokenVariable asText
    baseUrl := ← defaulted fields "base_url" Service.defaultBaseUrl asText
    timeToLive := ← defaulted fields "cache_ttl_secs" Service.defaultTimeToLive asNat }

def asOutput : Decoder Output := fun value => do
  let fields ← fields? ["dir", "targets", "page", "title", "description"] value
  let default := Output.default
  return {
    directory := ⟨← defaulted fields "dir" default.directory.text asText⟩
    targets := ← defaulted fields "targets" default.targets (asList asChoice)
    page := ← defaulted fields "page" default.page asText
    title := ← defaulted fields "title" default.title asText
    description := ← defaulted fields "description" default.description asText }

def asAssets : Decoder Assets := fun value => do
  let fields ← fields? ["enabled", "format", "scale"] value
  let default := Assets.default
  return {
    enabled := ← defaulted fields "enabled" default.enabled asBool
    format := ← defaulted fields "format" default.format asChoice
    scale := ← defaulted fields "scale" default.scale asReal }

/-- The key of a moment where a table is read. -/
def momentKey : String := "$__toml_private_datetime"

/-- Tokens are taken in the order of their colours. A moment is read as a table with one key. -/
def asTokens : Decoder (List (String × String))
  | .moment written => some [(momentKey, written)]
  | .table _ entries => do
    let tokens ← entries.mapM fun (color, value) => do return (color, ← asText value)
    return tokens.mergeSort fun a b => decide (a.1 ≤ b.1)
  | _ => none

def asSection : Decoder Section := fun value => do
  let fields ← fields? ["name", "node_id", "activation"] value
  return {
    name := ← required fields "name" asText
    nodeId := ← required fields "node_id" asText
    activation := ← defaulted fields "activation" none fun value => (asChoice value).map some }

def ofTable (entries : Toml.Entries) : Option Manifest := do
  let fields ← fields? ["source", "output", "assets", "tokens", "sections"] (.table .header entries)
  return {
    source := ← required fields "source" asSource
    output := ← defaulted fields "output" Output.default asOutput
    assets := ← defaulted fields "assets" Assets.default asAssets
    tokens := ← defaulted fields "tokens" [] asTokens
    sections := ← defaulted fields "sections" [] (asList asSection) }

def read (source : SourceText) : Except Failure Manifest :=
  match (Toml.parse source.text).bind ofTable with
  | none => .error .malformed
  | some manifest =>
    match manifest.flaws with
    | [] => .ok manifest
    | flaw :: _ => .error (.invalid (flaw.diagnostic source))

def load (tree : FileTree) (path : Path) : Except Failure Manifest :=
  match tree.read? path with
  | some text => read ⟨text, path.text⟩
  | none => .error (.unreadable path)

end Handoff.Manifest
