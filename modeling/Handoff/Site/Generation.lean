import Handoff.Site.Plan

/-!
Making a site: its files are shown, or written one after the other until one cannot be.
-/
namespace Handoff.Site

/-- What became of the files of a site. -/
inductive Outcome where
  | shown (files : List (Path × String))
  | written (files : List (Path × WriteStatus))

/-- A site that was made. -/
structure Generation where
  page : String
  targets : List Target
  sections : List (String × Activation)
  outcome : Outcome

/-- Why a site could not be made. -/
inductive Failure where
  | missingNode (error : MissingNode)
  | unwritable (error : WriteFailure)

def Failure.message : Failure → String
  | .missingNode error => error.message
  | .unwritable error => "Failed to write " ++ error.path.text

/-- Writes files one after the other, up to the first that cannot be written. -/
def writeAll (tree : FileTree) : List OutputFile → FileTree × Except WriteFailure (List WriteStatus)
  | [] => (tree, .ok [])
  | file :: rest =>
    match tree.write file with
    | (tree, .error error) => (tree, .error error)
    | (tree, .ok status) =>
      match writeAll tree rest with
      | (tree, .ok statuses) => (tree, .ok (status :: statuses))
      | (tree, .error error) => (tree, .error error)

def generation (manifest : Manifest) (sections : List Section) (outcome : Outcome) :
    Generation where
  page := manifest.output.page
  targets := manifest.output.targets
  sections := sections.map fun item => (item.name, item.activation)
  outcome := outcome

/-- The files that would be written below a directory. -/
def preview (manifest : Manifest) (design : Node) (root : Path) : Except Failure Generation :=
  match sections manifest design with
  | .error error => .error (.missingNode error)
  | .ok sections =>
    let files := plan manifest design sections root
    .ok (generation manifest sections
      (.shown (files.map fun file => (root.relativeTo file.path, file.content))))

/-- Writes the files of a site below a directory. -/
def generate (manifest : Manifest) (design : Node) (root : Path) (tree : FileTree) :
    FileTree × Except Failure Generation :=
  match sections manifest design with
  | .error error => (tree, .error (.missingNode error))
  | .ok sections =>
    let files := plan manifest design sections root
    match writeAll tree files with
    | (tree, .error error) => (tree, .error (.unwritable error))
    | (tree, .ok statuses) =>
      (tree, .ok (generation manifest sections
        (.written ((files.map fun file => root.relativeTo file.path).zip statuses))))

/-- Makes a site; a dry run only shows what it would write. -/
def make (isDryRun : Bool) (manifest : Manifest) (design : Node) (root : Path) (tree : FileTree) :
    FileTree × Except Failure Generation :=
  if isDryRun then (tree, preview manifest design root) else generate manifest design root tree

end Handoff.Site
