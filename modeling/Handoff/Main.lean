import Handoff.Command.Run

/-!
The program on the files of a disk. A command is first run on its inputs alone, which shows what it
would write; then what is already there is read as well, and the command is run on all of that. The
program makes no connections, so that no request to the service is ever completed.
-/
namespace Handoff.Disk

def pathOf (location : Location) : Path := ⟨"/" ++ String.intercalate "/" location⟩

/-- Takes up a file, if there is one that can be read. -/
def take (files : FileTree) (path : Path) : IO FileTree := do
  match ← (IO.FS.readFile path.text).toBaseIO with
  | .ok content => return (files.store path content).1
  | .error _ => return files

/-- The files that differ from what was there before. -/
def changes (before after : FileTree) : List (Location × String) :=
  after.entries.entries.filterMap fun (location, entry) =>
    match entry with
    | .file content => if before.at? location = some entry then none else some (location, content)
    | .directory => none

def save (location : Location) (content : String) : IO Unit := do
  IO.FS.createDirAll (pathOf location.dropLast).text
  IO.FS.writeFile (pathOf location).text content

/-- The environment as far as a command looks at it: the variable that holds its access token. -/
def environment (files : FileTree) (command : Command) : IO (String → Option String) := do
  match command.config?.map (Manifest.load files) with
  | some (.ok manifest) =>
    let name := manifest.source.tokenVariable
    let held ← IO.getEnv name
    return fun asked => if asked = name then held else none
  | _ => return fun _ => none

def run (arguments : List String) : IO Command.Outcome := do
  let start := FileTree.emptyAt ⟨(← IO.currentDir).toString⟩
  match Command.ofArguments arguments with
  | .error _ => return Command.runArguments ⟨start, fun _ => none, fun _ _ => none⟩ arguments
  | .ok command =>
    let files ← command.inputs.foldlM take start
    let surroundings := ⟨files, ← environment files command, fun _ _ => none⟩
    let drafted := changes files (command.run surroundings).files
    let files ← drafted.foldlM (fun files change => take files (pathOf change.1)) files
    let outcome := command.run { surroundings with files }
    (changes files outcome.files).forM fun (location, content) => save location content
    return outcome

def print (line : Report.Line) : IO Unit :=
  match line.stream with
  | .out => IO.println line.text
  | .err => IO.eprintln line.text

end Handoff.Disk

def main (arguments : List String) : IO UInt32 := do
  try
    let outcome ← Handoff.Disk.run arguments
    outcome.lines.forM Handoff.Disk.print
    return .ofNat outcome.ending.code
  catch error =>
    IO.eprintln (toString error)
    return 1
