import Handoff.Component.Angular
import Handoff.Component.Registry
import Handoff.Component.Renderer

/-!
Components for React and for Vue, and the renderer of each target.
-/
namespace Handoff

/-! React: function components whose markup is inside a return statement. -/

namespace Component.React

def library : Library :=
  Registry.library
    ["DialogContent", "DialogDescription", "DialogHeader", "DialogTitle", "DialogTrigger"]

/-- Quotes are written as entities in text as well. -/
def textEntities : Text.EscapeTable := Markup.textEntities ++ [('"', "&quot;")]

def style : Markup.Style where
  classAttribute := "className"
  textEntities := textEntities
  selfClosing := .always
  baseLevel := 2

/-- An interface for the properties, and a function that returns the markup. -/
def wrap (name template : String) (imports : Imports) : String :=
  (CodeBuilder.empty.line "import React from 'react';").lines
      (imports.toList.map fun (module, symbols) => importLine module symbols ++ ";")
    |>.blank |>.line ("export interface " ++ name ++ "Props \x7b") |>.indent
    |>.line "className?: string;" |>.dedent |>.line "\x7d" |>.blank
    |>.line ("export function " ++ name ++ "(\x7b className \x7d: " ++ name ++ "Props) \x7b")
    |>.indent |>.line "return (" |>.raw template |>.raw "\n" |>.line ");" |>.dedent
    |>.line "\x7d" |>.text

def renderer : Renderer := ⟨style, library, wrap⟩

end Component.React

/-! Vue: single files with a script and a template. -/

namespace Component.Vue

def library : Library :=
  Registry.library ["DialogContent", "DialogHeader", "DialogTitle", "DialogTrigger"]

def style : Markup.Style where
  classAttribute := "class"
  textEntities := Markup.textEntities
  selfClosing := .always
  baseLevel := 1

/-- A script with the imports and the properties, and the template after it. -/
def wrap (_name template : String) (imports : Imports) : String :=
  let head := (CodeBuilder.empty.line "<script setup lang=\"ts\">").lines
    (imports.toList.map fun (module, symbols) => importLine module symbols)
  (if imports.isEmpty then head else head.blank)
    |>.line "interface Props \x7b" |>.indent |>.line "class?: string" |>.dedent |>.line "\x7d"
    |>.blank |>.line "defineProps<Props>()" |>.line "</script>" |>.blank |>.line "<template>"
    |>.raw template |>.raw "\n" |>.line "</template>" |>.text

def renderer : Renderer := ⟨style, library, wrap⟩

end Component.Vue

def Target.renderer : Target → Component.Renderer
  | .react => Component.React.renderer
  | .vue => Component.Vue.renderer
  | .angular => Component.Angular.renderer

end Handoff
