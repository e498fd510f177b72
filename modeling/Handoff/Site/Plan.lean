import Handoff.Classes.Tokens
import Handoff.Code.Builder
import Handoff.Component.Targets
import Handoff.FileTree
import Handoff.Page.Document
import Handoff.Site.Section

/-!
The files of a site: components of every target, the page that mounts those of the first target, and
the stylesheet, which is made only where there is none.
-/
namespace Handoff.Site

/-! The stylesheet, which declares a variable for every token -/

def directives : List String := ["@tailwind base;", "@tailwind components;", "@tailwind utilities;"]

def declaration (token : String × String) : String := token.2 ++ ": #" ++ token.1 ++ ";"

def stylesheet (tokens : Classes.TokenMap) : String :=
  let start := CodeBuilder.empty.lines directives
  if tokens.toList.isEmpty then start.text
  else
    start.blank |>.line ":root \x7b" |>.indent |>.lines (tokens.toList.map declaration) |>.dedent
      |>.line "\x7d" |>.text

/-! The files -/

def componentFile (manifest : Manifest) (root : Path) (target : Target) (item : Section) :
    OutputFile where
  path := (root.join manifest.output.componentsDirectory) / Component.fileName target item.name
  content := target.renderer.render (some manifest.tokenMap) item.node item.name
  overwrite := .always

def pageTarget (manifest : Manifest) : Target := manifest.output.targets.head?.getD .react

def mounts (manifest : Manifest) (sections : List Section) : List Page.Mount :=
  sections.map fun item => ⟨item.name, pageTarget manifest, item.activation⟩

def pageFile (manifest : Manifest) (design : Node) (sections : List Section) (root : Path) :
    OutputFile where
  path := root.join manifest.output.pagePath
  content := Page.text design manifest.output.page (mounts manifest sections) manifest.output.title
    manifest.output.description
  overwrite := .always

def stylesheetFile (manifest : Manifest) (root : Path) : OutputFile where
  path := root.join manifest.output.stylesheetPath
  content := stylesheet manifest.tokenMap
  overwrite := .ifMissing

/-- The files of a site below a directory, in the order in which they are written. -/
def plan (manifest : Manifest) (design : Node) (sections : List Section) (root : Path) :
    List OutputFile :=
  manifest.output.targets.flatMap (fun target => sections.map (componentFile manifest root target))
    ++ [pageFile manifest design sections root, stylesheetFile manifest root]

end Handoff.Site
