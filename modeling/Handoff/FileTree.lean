import Handoff.OrderedMap
import Handoff.Path

/-!
Directories with regular files in them, as a value, and how files are read and written there.
Writing creates the directories on the way, and those stay when a later step of the same writing
fails.
-/
namespace Handoff

abbrev Location := List String

/-- What is at a location. -/
inductive Entry where
  | directory
  | file (content : String)
  deriving DecidableEq

/-- What there is below a root, and the directory that relative paths start from. -/
structure FileTree where
  entries : OrderedMap Location Entry
  current : Location
  deriving DecidableEq

/-- Whether a file that is there already may be replaced. -/
inductive Overwrite where
  | always
  | ifMissing
  deriving DecidableEq

/-- A file to be written. -/
structure OutputFile where
  path : Path
  content : String
  overwrite : Overwrite

/-- What became of a file that was to be written. -/
inductive WriteStatus where
  | written
  | unchanged
  | skipped
  deriving DecidableEq

/-- A file could not be written: a directory is in its place or a file in its way, or its name is
not one that files can have. -/
structure WriteFailure where
  path : Path
  deriving DecidableEq

namespace FileTree

def empty : FileTree := ⟨.empty, []⟩

def at? (tree : FileTree) (location : Location) : Option Entry :=
  if location.isEmpty then some .directory else tree.entries.get? location

def put (tree : FileTree) (location : Location) (entry : Entry) : FileTree :=
  { tree with entries := tree.entries.insert location entry }

def nameLimit : Nat := 255

/-- Whether a segment can be the name of a file or a directory. -/
def isName (segment : String) : Bool :=
  !Path.isIdle segment && segment != ".." && decide (segment.utf8ByteSize ≤ nameLimit)

/-- No path has a null character. -/
def isPassable (segments : List String) : Bool :=
  segments.all fun segment => !segment.toList.contains '\x00'

def step? (tree : FileTree) (location : Location) (segment : String) : Option Location :=
  match tree.at? location with
  | some .directory =>
    if Path.isIdle segment then some location
    else if segment = ".." then some location.dropLast
    else if isName segment then some (location ++ [segment])
    else none
  | _ => none

def start (tree : FileTree) (path : Path) : Location := if path.isAbsolute then [] else tree.current

/-- Where a path leads, whether or not something is there. -/
def locate? (tree : FileTree) (path : Path) : Option Location :=
  if isPassable path.segments then path.segments.foldlM tree.step? (tree.start path) else none

def find? (tree : FileTree) (path : Path) : Option Entry := (tree.locate? path).bind tree.at?

def contains (tree : FileTree) (path : Path) : Bool := (tree.find? path).isSome

def read? (tree : FileTree) (path : Path) : Option String :=
  match tree.find? path with
  | some (.file content) => some content
  | _ => none

/-- Walks from a directory, creating the directories that are missing, and tells where that leads. A
file in the way, or a segment that cannot be a name, leads nowhere. -/
def enter (tree : FileTree) (location : Location) : List String → FileTree × Option Location
  | [] => (tree, some location)
  | segment :: rest =>
    if Path.isIdle segment then tree.enter location rest
    else if segment = ".." then tree.enter location.dropLast rest
    else
      match tree.at? (location ++ [segment]) with
      | some .directory => tree.enter (location ++ [segment]) rest
      | some (.file _) => (tree, none)
      | none =>
        if isName segment then
          (tree.put (location ++ [segment]) .directory).enter (location ++ [segment]) rest
        else (tree, none)

/-- No files, seen from a directory. -/
def emptyAt (directory : Path) : FileTree :=
  let (tree, location) := empty.enter [] directory.segments
  { tree with current := location.getD [] }

def createParents (tree : FileTree) (path : Path) : FileTree × Option Location :=
  if isPassable path.parents then tree.enter (tree.start path) path.parents else (tree, none)

/-- Puts a regular file where a path leads, after creating the directories that it is in. -/
def store (tree : FileTree) (path : Path) (content : String) :
    FileTree × Except WriteFailure WriteStatus :=
  match tree.createParents path, path.segments.getLast? with
  | (tree, some location), some name =>
    if isName name && isPassable [name] then
      match tree.at? (location ++ [name]) with
      | some .directory => (tree, .error ⟨path⟩)
      | _ => (tree.put (location ++ [name]) (.file content), .ok .written)
    else (tree, .error ⟨path⟩)
  | (tree, _), _ => (tree, .error ⟨path⟩)

/-- Writes a file by its rule. A file whose content is right already is not touched. -/
def write (tree : FileTree) (file : OutputFile) : FileTree × Except WriteFailure WriteStatus :=
  if tree.contains file.path && file.overwrite == .ifMissing then (tree, .ok .skipped)
  else if tree.read? file.path == some file.content then (tree, .ok .unchanged)
  else tree.store file.path file.content

/-- The regular files below a location by their paths from there, in the order of the paths. -/
def filesBelow (tree : FileTree) (location : Location) : List (String × String) :=
  (tree.entries.entries.filterMap fun (place, entry) =>
    match entry with
    | .file content =>
      if location.isPrefixOf place then
        some ((Path.ofSegments (place.drop location.length)).text, content)
      else none
    | .directory => none).mergeSort fun a b => decide (a.1 ≤ b.1)

end FileTree

end Handoff
