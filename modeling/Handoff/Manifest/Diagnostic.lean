import Handoff.Path
import Handoff.Text.Extent

/-!
What is said about a manifest that cannot be used, and where in its text.
-/
namespace Handoff.Manifest

/-- The text of a manifest with the name of its file. -/
structure SourceText where
  text : String
  fileName : String

/-- What is wrong, and where. -/
structure Diagnostic where
  message : String
  extent : Option Text.Extent
  fileName : String
  deriving DecidableEq

/-- Why there is no manifest. -/
inductive Failure where
  | unreadable (path : Path)
  | malformed
  | invalid (diagnostic : Diagnostic)
  deriving DecidableEq

def Failure.message : Failure → String
  | .unreadable path => "failed to read '" ++ path.text ++ "'"
  | .malformed => "failed to parse figura.toml"
  | .invalid diagnostic => diagnostic.message

namespace SourceText

def diagnostic (source : SourceText) (message : String) (extent : Option Text.Extent) :
    Diagnostic :=
  ⟨message, extent, source.fileName⟩

def atKey (source : SourceText) (message key : String) : Diagnostic :=
  source.diagnostic message (Text.keyExtent? source.text key)

/-- Points at a value in quotes, or else at the assignment of its key. -/
def atValue (source : SourceText) (message key value : String) : Diagnostic :=
  source.diagnostic message
    ((Text.valueExtent? source.text value).or (Text.keyExtent? source.text key))

end SourceText

end Handoff.Manifest
