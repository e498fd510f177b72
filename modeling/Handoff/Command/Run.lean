import Handoff.Command.Arguments
import Handoff.Command.Help
import Handoff.Design.Storage
import Handoff.Manifest.Reading
import Handoff.Report.Commands

/-!
What a command does: the lines that it prints, the files that it leaves, and whether it succeeds.
-/
namespace Handoff.Command

open Report (Line)

/-- What a command is run with. -/
structure Surroundings where
  files : FileTree
  environment : String → Option String
  transport : Service.Transport

/-- How a command ends: well, with a failure, or because it was not understood. -/
inductive Ending where
  | success
  | failure
  | misuse
  deriving DecidableEq

def Ending.code : Ending → Nat
  | .success => 0
  | .failure => 1
  | .misuse => 2

/-- What a command leaves. -/
structure Outcome where
  ending : Ending
  lines : List Line
  files : FileTree

/-- What comes of a part of a command: a value, or the reason why there is none. -/
abbrev Attempt (α : Type) := Except String α

/-- The files and lines of a command that succeeds or fails. -/
def Outcome.ofAttempt (files : FileTree) : Attempt (List Line) → Outcome
  | .ok lines => ⟨.success, lines, files⟩
  | .error message => ⟨.failure, [⟨.err, "error: " ++ message⟩], files⟩

def manifestAt (files : FileTree) (config : Path) : Attempt Manifest :=
  match Manifest.load files config with
  | .ok manifest => .ok manifest
  | .error failure => .error failure.message

/-- The design that a manifest names, from the service. -/
def fetchedDesign (surroundings : Surroundings) (manifest : Manifest) (withAssets : Bool) :
    Attempt Site.Fetched :=
  match manifest.accessToken (surroundings.environment manifest.source.tokenVariable) with
  | .error failure => .error failure.message
  | .ok token =>
    match (Site.fetch surroundings.transport 0 manifest withAssets
        (.ofSettings (manifest.settings token))).1 with
    | .ok fetched => .ok fetched
    | .error failure => .error failure.message

/-- The design of a manifest from where it was asked for. -/
def designFrom (surroundings : Surroundings) (manifest : Manifest) : DesignOrigin → Attempt Design
  | .service withAssets => (·.design) <$> fetchedDesign surroundings manifest withAssets
  | .file path =>
    match Design.load surroundings.files path with
    | .ok design => .ok design
    | .error failure => .error failure.message

def runCheck (surroundings : Surroundings) (config : Path) : Outcome :=
  .ofAttempt surroundings.files do
    let manifest ← manifestAt surroundings.files config
    return Report.check manifest config

/-- Fetches the design of a manifest into a file. -/
def runFetch (surroundings : Surroundings) (config output : Path) (withAssets : Bool) : Outcome :=
  let fetched := do
    let manifest ← manifestAt surroundings.files config
    fetchedDesign surroundings manifest withAssets
  match fetched with
  | .error message => .ofAttempt surroundings.files (.error message)
  | .ok fetched =>
    match fetched.design.save surroundings.files output with
    | (files, .ok _) => .ofAttempt files (.ok (Report.fetch fetched output))
    | (files, .error failure) => .ofAttempt files (.error (Design.unsavedMessage failure))

/-- Makes the site of a manifest beside the manifest, or shows it. -/
def runGenerate (surroundings : Surroundings) (config : Path) (origin : DesignOrigin)
    (isDryRun : Bool) : Outcome :=
  let inputs := do
    let manifest ← manifestAt surroundings.files config
    return (manifest, ← designFrom surroundings manifest origin)
  match inputs with
  | .error message => .ofAttempt surroundings.files (.error message)
  | .ok (manifest, design) =>
    let (files, made) :=
      Site.make isDryRun manifest design.root config.parent surroundings.files
    match made with
    | .ok made => .ofAttempt files (.ok (Report.generation made))
    | .error failure => .ofAttempt files (.error failure.message)

def run (surroundings : Surroundings) : Command → Outcome
  | .check config => runCheck surroundings config
  | .fetch config output withAssets => runFetch surroundings config output withAssets
  | .generate config origin isDryRun => runGenerate surroundings config origin isDryRun
  | .completions shell => ⟨.success, completionScript shell, surroundings.files⟩

/-- What arguments leave, whether they name a command or not. -/
def runArguments (surroundings : Surroundings) (arguments : List String) : Outcome :=
  match ofArguments arguments with
  | .ok command => command.run surroundings
  | .error (.help verb) => ⟨.success, helpLines verb, surroundings.files⟩
  | .error .version => ⟨.success, [versionLine], surroundings.files⟩
  | .error .misuse =>
    ⟨.misuse,
      [⟨.err, "error: the arguments were not understood; try '" ++ programName ++ " help'"⟩],
      surroundings.files⟩

end Handoff.Command
