import Handoff.Command.Basic
import Handoff.Report.Line

/-!
What is printed about the program itself: help, the version, and scripts that complete its commands
in a shell.
-/
namespace Handoff.Command

open Report (Line)

def Setting.usage (setting : Setting) : String :=
  let letter := match setting.letter? with
    | some letter => "-" ++ String.singleton letter ++ ", "
    | none => "    "
  letter ++ "--" ++ Named.name setting ++ (if setting.takesPath then " <PATH>" else "")

/-- Lines of names with what is said about each, set side by side. -/
def aboutLines (entries : List (String × String)) : List Line :=
  let width := (entries.map (·.1.length)).foldl max 0
  entries.map fun (name, about) =>
    .plain ("  " ++ name ++ String.ofList (List.replicate (width - name.length) ' ') ++ "  "
      ++ about)

def verbEntries : List (String × String) :=
  (Named.all : List Verb).map (fun verb => (Named.name verb, verb.about))
    ++ [("help", "Print this message or the help of the given command")]

/-- Help with the program or with one of its commands. -/
def helpLines (verb : Option Verb) : List Line :=
  let about := match verb with
    | some verb => verb.about
    | none => "Compile design documents into React, Vue and Angular components"
  let usage := programName ++ match verb with
    | some .completions => " completions [OPTIONS] <SHELL>"
    | some verb => " " ++ Named.name verb ++ " [OPTIONS]"
    | none => " [OPTIONS] <COMMAND>"
  let details := match verb with
    | none => .heading "Commands" :: aboutLines verbEntries ++ [.blank]
    | some .completions =>
      [.heading "Shells",
        .plain ("  " ++ String.intercalate ", " ((Named.all : List Shell).map Named.name)),
        .blank]
    | some _ => []
  [.plain about, .blank, .plain ("Usage: " ++ usage), .blank] ++ details
    ++ .heading "Options"
      :: aboutLines ((settingsOf verb).map fun setting => (setting.usage, setting.about))

def versionLine : Line := .plain (programName ++ " " ++ version)

/-- A script that lets a shell complete the program's commands. -/
def completionScript (shell : Shell) : List Line :=
  let words := verbEntries.map (·.1)
  let list := String.intercalate " " words
  match shell with
  | .bash => [.plain ("complete -W '" ++ list ++ "' " ++ programName)]
  | .elvish =>
    [.plain ("set edit:completion:arg-completer[" ++ programName ++ "] = \x7b|@words| put " ++ list
      ++ " \x7d")]
  | .fish => [.plain ("complete -c " ++ programName ++ " -f -a '" ++ list ++ "'")]
  | .powershell =>
    [.plain ("Register-ArgumentCompleter -Native -CommandName " ++ programName
        ++ " -ScriptBlock \x7b"),
      .plain "  param($word)",
      .plain ("  " ++ String.intercalate ", " (words.map fun word => "'" ++ word ++ "'")
        ++ " | Where-Object \x7b $_ -like \"$word*\" \x7d"),
      .plain "\x7d"]
  | .zsh =>
    [.plain ("#compdef " ++ programName), .plain ("_arguments '1:command:(" ++ list ++ ")'")]

end Handoff.Command
