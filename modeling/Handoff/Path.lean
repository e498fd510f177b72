import Handoff.Text.Parts

/-!
Paths of files. A path keeps the text it was given: empty segments and dots say nothing when paths
are compared, but they stay where a path is shown.
-/
namespace Handoff

/-- A path with slashes between its segments. -/
structure Path where
  text : String
  deriving DecidableEq

namespace Path

/-- The directory that a path is relative to. -/
def current : Path := ⟨""⟩

def segments (path : Path) : List String := Text.splitString '/' path.text

def ofSegments (segments : List String) : Path := ⟨String.intercalate "/" segments⟩

def isAbsolute (path : Path) : Bool := "/".toList.isPrefixOf path.text.toList

/-- Whether a segment leads nowhere else: it is empty or a dot. -/
def isIdle (segment : String) : Bool := segment == "" || segment == "."

/-- A path inside a directory; an absolute path stays what it is. -/
def join (directory : Path) (path : Path) : Path :=
  if path.isAbsolute then path
  else if directory.text.isEmpty || "/".toList.isSuffixOf directory.text.toList then
    ⟨directory.text ++ path.text⟩
  else ⟨directory.text ++ "/" ++ path.text⟩

instance : HDiv Path String Path := ⟨fun directory name => directory.join ⟨name⟩⟩

/-- Where a path starts: at the root of all files, at a dot, or at its first name. -/
inductive Start where
  | root
  | dot
  | name
  deriving DecidableEq

/-- Where a path starts, with the segments after that. -/
def anchored (path : Path) : Start × List String :=
  match path.segments with
  | "" :: rest => if path.isAbsolute then (.root, rest) else (.name, rest)
  | "." :: rest => (.dot, rest)
  | segments => (.name, segments)

/-- What is left of segments after others, if they begin with them; idle segments do not count. -/
def after? : (inner outer : List String) → Option (List String)
  | [], outer => some outer
  | _ :: _, [] => none
  | name :: inner, segment :: outer =>
    if isIdle segment then after? (name :: inner) outer
    else if name = segment then after? inner outer
    else none

/-- A path as seen from a directory, if it is inside. -/
def relativeTo? (directory path : Path) : Option Path :=
  if directory.text.isEmpty then some path
  else
    let (origin, inner) := directory.anchored
    let (start, outer) := path.anchored
    if origin = start then
      (after? (inner.filter (!isIdle ·)) outer).map fun rest => ofSegments (rest.dropWhile isIdle)
    else none

/-- A path as seen from a directory, or the path itself when it is not inside. -/
def relativeTo (directory path : Path) : Path := (relativeTo? directory path).getD path

/-- Segments from the last one back, without idle ones in front; the last of them stays. -/
def dropIdle : List String → List String
  | segment :: next :: rest =>
    if isIdle segment then dropIdle (next :: rest) else segment :: next :: rest
  | segments => segments

/-- The segments of the directory that a path is in. -/
def parents (path : Path) : List String :=
  (dropIdle ((path.segments.reverse.dropWhile isIdle).drop 1)).reverse

def parent (path : Path) : Path :=
  match path.parents with
  | [""] => ⟨"/"⟩
  | segments => ofSegments segments

end Path

end Handoff
