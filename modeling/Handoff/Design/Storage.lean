import Handoff.Design.Decoding
import Handoff.Design.Encoding
import Handoff.FileTree

/-!
Designs kept in files.
-/
namespace Handoff.Design

/-- Why a file gives no design. -/
inductive LoadFailure where
  | unreadable (path : Path)
  | malformed (path : Path)
  deriving DecidableEq

def LoadFailure.message : LoadFailure → String
  | .unreadable path => "Failed to read " ++ path.text
  | .malformed path => path.text ++ " is not a figura IR file"

def unsavedMessage (failure : WriteFailure) : String := "Failed to write " ++ failure.path.text

def save (design : Design) (tree : FileTree) (path : Path) :
    FileTree × Except WriteFailure WriteStatus :=
  tree.store path design.write

def load (tree : FileTree) (path : Path) : Except LoadFailure Design :=
  match tree.read? path with
  | none => .error (.unreadable path)
  | some text =>
    match Design.read text with
    | some design => .ok design
    | none => .error (.malformed path)

end Handoff.Design
