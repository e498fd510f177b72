import Handoff.Named

/-!
What components are written for, and when a component on a page becomes live.
-/
namespace Handoff

/-- A framework that components are written for. -/
inductive Target where
  | react
  | vue
  | angular
  deriving DecidableEq

instance : Named Target where
  all := [.react, .vue, .angular]
  name
    | .react => "react"
    | .vue => "vue"
    | .angular => "angular"
  complete a := by cases a <;> decide
  distinct := by decide

namespace Target

/-- The ending of a component's file name, without its first dot. -/
def extension : Target → String
  | .react => "tsx"
  | .vue => "vue"
  | .angular => "component.ts"

def spelling : Spelling Target where
  kind := "target"
  expected := "'react', 'vue' or 'angular'"
  words := [("react", .react), ("tsx", .react), ("vue", .vue), ("angular", .angular),
    ("ng", .angular)]

end Target

/-- When a component on a page becomes live: at once, when it is scrolled into view, or never. -/
inductive Activation where
  | eager
  | lazy
  | none
  deriving DecidableEq

instance : Named Activation where
  all := [.eager, .lazy, .none]
  name
    | .eager => "eager"
    | .lazy => "lazy"
    | .none => "none"
  complete a := by cases a <;> decide
  distinct := by decide

namespace Activation

def directive? : Activation → Option String
  | .eager => some "client:load"
  | .lazy => some "client:visible"
  | .none => Option.none

def spelling : Spelling Activation where
  kind := "activation"
  expected := "'eager', 'lazy' or 'none'"
  words := [("eager", .eager), ("load", .eager), ("lazy", .lazy), ("visible", .lazy),
    ("none", .none), ("static", .none)]

end Activation

/-- The format of an exported picture. -/
inductive AssetFormat where
  | png
  | svg
  | jpg
  deriving DecidableEq

instance : Named AssetFormat where
  all := [.png, .svg, .jpg]
  name
    | .png => "png"
    | .svg => "svg"
    | .jpg => "jpg"
  complete a := by cases a <;> decide
  distinct := by decide

namespace AssetFormat

def spelling : Spelling AssetFormat where
  kind := "asset format"
  expected := "'png', 'svg' or 'jpg'"
  words := [("png", .png), ("svg", .svg), ("jpg", .jpg), ("jpeg", .jpg)]

end AssetFormat

end Handoff
