import Handoff.Command.Basic

/-!
Reading a command from arguments. They are read from left to right, and help or the version is given
as soon as it is asked for, if nothing was wrong before.
-/
namespace Handoff.Command

/-- An argument by its form. -/
inductive Argument where
  /-- Two dashes: no argument after them has a form. -/
  | divider
  | long (name : String) (value : Option String)
  /-- A dash with letters after it. -/
  | letters (letters : List Char)
  | plain (text : String)
  deriving DecidableEq

def Argument.ofText (text : String) : Argument :=
  match text.toList with
  | ['-', '-'] => .divider
  | '-' :: '-' :: rest =>
    let name := String.ofList (rest.takeWhile (· != '='))
    match rest.dropWhile (· != '=') with
    | [] => .long name none
    | _ :: value => .long name (some (String.ofList value))
  | '-' :: letter :: rest => .letters (letter :: rest)
  | _ => .plain text

/-- Why arguments name no command. -/
inductive Stop where
  | misuse
  | help (verb : Option Verb)
  | version
  deriving DecidableEq

/-- What arguments have said so far. -/
structure Given where
  paths : List (Setting × Path)
  switches : List Setting
  operands : List String

namespace Given

def none : Given := ⟨[], [], []⟩

def path? (given : Given) (setting : Setting) : Option Path := given.paths.lookup setting

def has (given : Given) (setting : Setting) : Bool := given.switches.contains setting

/-- Takes a setting with its path, which is not empty and given once. -/
def takePath (given : Given) (setting : Setting) (value : String) : Except Stop Given :=
  if value.isEmpty ∨ (given.path? setting).isSome then .error .misuse
  else .ok { given with paths := (setting, ⟨value⟩) :: given.paths }

/-- Takes a setting without a value. It is given once, but more may be logged any number of
times. -/
def takeSwitch (given : Given) (verb : Option Verb) (setting : Setting) : Except Stop Given :=
  match setting with
  | .help => .error (.help verb)
  | .version => .error .version
  | .verbose => .ok given
  | _ =>
    if given.has setting then .error .misuse
    else .ok { given with switches := setting :: given.switches }

/-- Takes an argument without a form. Only completions have one: the name of a shell. -/
def takeOperand (given : Given) (verb : Option Verb) (text : String) : Except Stop Given :=
  if verb = some .completions ∧ given.operands = []
      ∧ (Named.ofName? text : Option Shell).isSome then
    .ok { given with operands := [text] }
  else .error .misuse

/-- Takes what stands after two dashes, and tells which setting still has no path. -/
def takeLong (given : Given) (verb : Option Verb) (name : String) (value : Option String) :
    Except Stop (Given × Option Setting) :=
  match (settingsOf verb).find? (Named.name · = name), value with
  | some setting, some value =>
    if setting.takesPath then (·, Option.none) <$> given.takePath setting value else .error .misuse
  | some setting, .none =>
    if setting.takesPath then .ok (given, some setting)
    else (·, Option.none) <$> given.takeSwitch verb setting
  | .none, _ => .error .misuse

/-- Takes letters after a dash, and tells which setting still has no path. The letters after that of
a setting with a path are the path, with or without a sign between. -/
def takeLetters (given : Given) (verb : Option Verb) :
    List Char → Except Stop (Given × Option Setting)
  | [] => .ok (given, Option.none)
  | letter :: rest =>
    match (settingsOf verb).find? (·.letter? = some letter) with
    | .none => .error .misuse
    | some setting =>
      if setting.takesPath then
        match rest with
        | [] => .ok (given, some setting)
        | '=' :: value => (·, Option.none) <$> given.takePath setting (String.ofList value)
        | value => (·, Option.none) <$> given.takePath setting (String.ofList value)
      else
        match given.takeSwitch verb setting with
        | .ok given => given.takeLetters verb rest
        | .error stop => .error stop

/-- Takes an argument that is not a divider, and tells which setting still has no path. -/
def take (given : Given) (verb : Option Verb) : Argument → Except Stop (Given × Option Setting)
  | .divider => .error .misuse
  | .long name value => given.takeLong verb name value
  | .letters letters => given.takeLetters verb letters
  | .plain text => (·, Option.none) <$> given.takeOperand verb text

/-- The path for a setting that stands in the next argument. -/
def takeNext (given : Given) (setting : Setting) : Argument → Except Stop Given
  | .plain text => given.takePath setting text
  | _ => .error .misuse

/-- Takes the arguments after a command's word; `waiting` is a setting that still has no path. -/
def takeAll (verb : Verb) (given : Given) (waiting : Option Setting) :
    List String → Except Stop Given
  | [] => if waiting.isSome then .error .misuse else .ok given
  | text :: rest =>
    match waiting, Argument.ofText text with
    | some setting, argument =>
      match given.takeNext setting argument with
      | .ok given => takeAll verb given Option.none rest
      | .error stop => .error stop
    | .none, .divider => rest.foldlM (·.takeOperand (some verb) ·) given
    | .none, argument =>
      match given.take (some verb) argument with
      | .ok (given, waiting) => takeAll verb given waiting rest
      | .error stop => .error stop

def config (given : Given) : Path := (given.path? .config).getD ⟨Manifest.defaultName⟩

/-- The command of a word with all that was given. A design from a file has no assets to skip. -/
def command (given : Given) : Verb → Except Stop Command
  | .check => .ok (.check given.config)
  | .fetch =>
    .ok (.fetch given.config ((given.path? .output).getD defaultOutput) (!given.has .noAssets))
  | .generate =>
    match given.path? .design, given.has .noAssets with
    | some _, true => .error .misuse
    | some path, false => .ok (.generate given.config (.file path) (given.has .dryRun))
    | .none, skipped => .ok (.generate given.config (.service (!skipped)) (given.has .dryRun))
  | .completions =>
    match given.operands.head?.bind Named.ofName? with
    | some shell => .ok (.completions shell)
    | .none => .error .misuse

end Given

def helpWith : List String → Stop
  | [] => .help none
  | [text] => if text = "help" then .help none else
    match (Named.ofName? text : Option Verb) with
    | some verb => .help (some verb)
    | none => .misuse
  | _ => .misuse

/-- The command that arguments name, after settings that may stand before any. -/
def ofArguments : List String → Except Stop Command
  | [] => .error .misuse
  | text :: rest =>
    match Argument.ofText text with
    | .plain text =>
      match (Named.ofName? text : Option Verb) with
      | some verb => do (← Given.none.takeAll verb none rest).command verb
      | none => .error (if text = "help" then helpWith rest else .misuse)
    | argument =>
      match Given.none.take none argument with
      | .ok _ => ofArguments rest
      | .error stop => .error stop

end Handoff.Command
