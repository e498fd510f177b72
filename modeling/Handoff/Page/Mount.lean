import Handoff.Component.Renderer

/-!
Components that a page mounts: the import that brings one in, and the element that puts it on the
page.
-/
namespace Handoff.Page

/-- A component on a page. -/
structure Mount where
  name : String
  target : Target
  activation : Activation
  deriving DecidableEq

/-- When a component becomes live if nothing else is said: at once if a reader can interact with it,
and never otherwise. -/
def defaultActivation (node : Node) : Activation :=
  if node.containsInteractive then .eager else .none

def exportedSymbol (target : Target) (name : String) : String :=
  match target with
  | .angular => name ++ "Component"
  | .react | .vue => name

namespace Mount

def symbol (mount : Mount) : String := exportedSymbol mount.target mount.name

/-- Where the component's file is, seen from the page. -/
def modulePath (mount : Mount) : String :=
  "../components/sections/" ++ Component.fileName mount.target mount.name

def importLine (mount : Mount) : String :=
  Component.importLine mount.modulePath [mount.symbol] ++ ";"

/-- The attributes of the mounted element. Angular components run in the browser only, whatever
their activation. -/
def directives (mount : Mount) : List String :=
  match mount.target with
  | .angular => [" client:only=\"angular\""]
  | .react | .vue => mount.activation.directive?.toList.map (" " ++ ·)

def element (mount : Mount) : String :=
  "<" ++ mount.symbol ++ String.join mount.directives ++ " />"

end Mount

end Handoff.Page
