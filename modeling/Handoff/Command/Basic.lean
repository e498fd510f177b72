import Handoff.Manifest.Basic
import Handoff.Named
import Handoff.Path

/-!
What the program can be asked to do, and the settings that its commands take.
-/
namespace Handoff

/-- A shell that the program can be completed in. -/
inductive Shell where
  | bash
  | elvish
  | fish
  | powershell
  | zsh
  deriving DecidableEq

instance : Named Shell where
  all := [.bash, .elvish, .fish, .powershell, .zsh]
  name
    | .bash => "bash"
    | .elvish => "elvish"
    | .fish => "fish"
    | .powershell => "powershell"
    | .zsh => "zsh"
  complete a := by cases a <;> decide
  distinct := by decide

/-- Where a site takes its design from: a file, or the service. -/
inductive DesignOrigin where
  | file (path : Path)
  | service (withAssets : Bool)
  deriving DecidableEq

/-- What the program is asked to do. -/
inductive Command where
  | check (config : Path)
  | fetch (config output : Path) (withAssets : Bool)
  | generate (config : Path) (origin : DesignOrigin) (isDryRun : Bool)
  | completions (shell : Shell)
  deriving DecidableEq

namespace Command

def config? : Command → Option Path
  | .check config => some config
  | .fetch config _ _ => some config
  | .generate config _ _ => some config
  | .completions _ => none

def inputs (command : Command) : List Path :=
  command.config?.toList ++ match command with
    | .generate _ (.file path) _ => [path]
    | _ => []

def programName : String := "figura"

def version : String := "0.1.0"

/-- Where a design is kept if nothing is said. -/
def defaultOutput : Path := ⟨"design-ir.json"⟩

/-- The word that a command starts with. -/
inductive Verb where
  | check
  | fetch
  | generate
  | completions
  deriving DecidableEq

instance : Named Verb where
  all := [.check, .fetch, .generate, .completions]
  name
    | .check => "check"
    | .fetch => "fetch"
    | .generate => "generate"
    | .completions => "completions"
  complete a := by cases a <;> decide
  distinct := by decide

def Verb.about : Verb → String
  | .check => "Validate figura.toml without contacting the design service"
  | .fetch => "Fetch the design and save its IR as JSON"
  | .generate => "Emit section components and the page"
  | .completions => "Generate shell completions"

/-- What an argument with dashes in front sets. -/
inductive Setting where
  | config
  | output
  | design
  | noAssets
  | dryRun
  | verbose
  | help
  | version
  deriving DecidableEq

/-- A setting's name is what stands after two dashes. -/
instance : Named Setting where
  all := [.config, .output, .design, .noAssets, .dryRun, .verbose, .help, .version]
  name
    | .config => "config"
    | .output => "output"
    | .design => "ir"
    | .noAssets => "no-assets"
    | .dryRun => "dry-run"
    | .verbose => "verbose"
    | .help => "help"
    | .version => "version"
  complete a := by cases a <;> decide
  distinct := by decide

namespace Setting

def letter? : Setting → Option Char
  | .config => some 'c'
  | .output => some 'o'
  | .design => none
  | .noAssets => none
  | .dryRun => none
  | .verbose => some 'v'
  | .help => some 'h'
  | .version => some 'V'

def takesPath : Setting → Bool
  | .config | .output | .design => true
  | _ => false

def about : Setting → String
  | .config => "Path to figura.toml (defaults to ./figura.toml)"
  | .output => "Where to write the IR"
  | .design => "Use a saved IR file instead of fetching the design"
  | .noAssets => "Skip asset export"
  | .dryRun => "Preview generated files without writing to disk"
  | .verbose => "Log more; reports stay the same"
  | .help => "Print help"
  | .version => "Print version"

end Setting

/-- The settings of a command, or those that may stand before any. -/
def settingsOf : Option Verb → List Setting
  | none => [.verbose, .help, .version]
  | some .check => [.config, .verbose, .help]
  | some .fetch => [.config, .output, .noAssets, .verbose, .help]
  | some .generate => [.config, .design, .noAssets, .dryRun, .verbose, .help]
  | some .completions => [.verbose, .help]

end Command

end Handoff
