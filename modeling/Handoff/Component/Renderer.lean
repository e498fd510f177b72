import Handoff.Component.Lowering
import Handoff.Design.Node
import Handoff.OrderedMap
import Handoff.Target

/-!
Source files of components. A renderer knows how a target spells markup, which library it uses, and
what its files look like around the printed markup.
-/
namespace Handoff

/-! What a file imports. Modules and symbols keep the order in which they first came. -/

/-- Symbols by module. -/
structure Imports where
  modules : OrderedMap String (List String)
  deriving DecidableEq

namespace Imports

def empty : Imports := ⟨.empty⟩

/-- Adds a symbol of a module, unless it is there already. -/
def add (imports : Imports) (module symbol : String) : Imports :=
  let symbols := (imports.modules.get? module).getD []
  if symbol ∈ symbols then imports
  else ⟨imports.modules.insert module (symbols ++ [symbol])⟩

def addAll (imports : Imports) (module : String) (symbols : List String) : Imports :=
  symbols.foldl (fun imports symbol => imports.add module symbol) imports

def has (imports : Imports) (module symbol : String) : Bool :=
  match imports.modules.get? module with
  | some symbols => symbol ∈ symbols
  | none => false

def toList (imports : Imports) : List (String × List String) := imports.modules.entries

def symbols (imports : Imports) : List String := imports.toList.flatMap Prod.snd

def isEmpty (imports : Imports) : Bool := imports.toList.isEmpty

end Imports

namespace Component

open Classes (TokenMap)

/-- What a target contributes to its components. -/
structure Renderer where
  style : Markup.Style
  library : Library
  /-- A file around printed markup, given the component's name and what it imports. -/
  wrap : (name template : String) → Imports → String

namespace Renderer

/-- What the roles that occur in a design need from the library. -/
def imports (renderer : Renderer) (node : Node) : Imports :=
  node.roles.foldl (fun imports role =>
    match renderer.library.wrapper? role with
    | some wrapper => imports.addAll wrapper.module wrapper.symbols
    | none => imports) .empty

/-- The markup of a design in the target's elements. -/
def markup (renderer : Renderer) (tokens : Option TokenMap) (node : Node) : Markup :=
  markupOf renderer.library renderer.style.classAttribute tokens node

/-- The source file of a component that shows a design. -/
def render (renderer : Renderer) (tokens : Option TokenMap) (node : Node) (name : String) :
    String :=
  let kept := node.withoutDecoration
  renderer.wrap name (renderer.style.print (renderer.markup tokens kept)) (renderer.imports kept)

end Renderer

/-- An import of named symbols, up to its closing quote. -/
def importLine (module : String) (symbols : List String) : String :=
  "import \x7b " ++ String.intercalate ", " symbols ++ " \x7d from '" ++ module ++ "'"

def fileName (target : Target) (name : String) : String := name ++ "." ++ target.extension

end Component

end Handoff
