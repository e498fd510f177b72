import Handoff.Proofs.EmbeddedTemplates

/-! The imports with which the file of a component begins, and the list of what a component
for Angular uses. Both stand before anything that the file says with its own name, so they
are read the same whatever that name is. -/

namespace Handoff
open Naming Text Component CodeBuilder

namespace Script

def Statement.isImport : Statement → Bool
  | .importOnly _ | .importDefault .. | .importNamed .. => true
  | .exportDeclared _ | .exportList _ => false

def isImportLine (line : String) : Bool := (Statement.ofTokens? (lex line)).any Statement.isImport

/-- The imports of a file that come before all else. -/
def leadingImports (target : Target) (text : String) : List Statement :=
  statements ((moduleLines target text).takeWhile isImportLine)

/-- Names with commas between them, up to a closing bracket. -/
def listedNames : List Token → List String
  | .word name :: .mark ',' :: rest => name :: listedNames rest
  | .word name :: .mark ']' :: _ => [name]
  | _ => []

def usedNames? (line : String) : Option (List String) :=
  match lex line with
  | .word "imports" :: .mark ':' :: .mark '[' :: rest => some (listedNames rest)
  | _ => none

/-- What a standalone component says it uses, in the first list of imports. -/
def usedNames (text : String) : List String := ((linesOf text).findSome? usedNames?).getD []

variable {symbols : List String} {source : String} {entries : List (String × List String)}

private theorem isImportLine_importLine (nonempty : symbols ≠ []) (plain : ∀ symbol ∈ symbols, IsPlain symbol)
    (legible : IsSource source) (ending : String) : isImportLine (importLine source symbols ++ ending) = true := by
  rw [isImportLine, ofTokens?_importLine nonempty plain legible]
  rfl

/-- Lines of imports are all taken, and the first other line ends them. -/
theorem takeWhile_imports (ending : String) (nonempty : ∀ entry ∈ entries, entry.2 ≠ [])
    (plain : ∀ entry ∈ entries, ∀ symbol ∈ entry.2, IsPlain symbol) (legible : ∀ entry ∈ entries, IsSource entry.1)
    {last : String} (ends : isImportLine last = false) (rest : List String) :
    (entries.map (fun entry => importLine entry.1 entry.2 ++ ending) ++ last :: rest).takeWhile isImportLine =
      entries.map fun entry => importLine entry.1 entry.2 ++ ending := by
  have imported : ∀ line ∈ entries.map (fun entry => importLine entry.1 entry.2 ++ ending), isImportLine line = true := by
    intro line member
    obtain ⟨entry, listed, rfl⟩ := List.mem_map.mp member
    exact isImportLine_importLine (nonempty entry listed) (plain entry listed) (legible entry listed) ending
  rw [List.takeWhile_append_of_pos imported, List.takeWhile_cons_of_neg (by simp [ends]), List.append_nil]

private theorem usedNames?_of_word {line word : String} {rest : List Token} (read : lex line = .word word :: rest)
    (other : word ≠ "imports") : usedNames? line = none := by
  rw [usedNames?, read]
  split
  next found => exact absurd (Token.word.inj (List.cons.inj found).1) other
  next => rfl

/-- Names with commas between them are read up to the bracket that follows. -/
theorem listedNames_lexed (nonempty : symbols ≠ []) (plain : ∀ symbol ∈ symbols, IsPlain symbol) (rest : List Char) :
    listedNames (lexAfter .nothing ((String.intercalate ", " symbols).toList ++ ']' :: rest)) = symbols := by
  have read : ∀ tail, listedNames ((symbols.map Token.word).intersperse (.mark ',') ++ .mark ']' :: tail) = symbols := by
    intro tail
    clear plain
    induction symbols with
    | nil => exact absurd rfl nonempty
    | cons symbol symbols ih =>
      cases symbols with
      | nil => simp [listedNames]
      | cons next symbols =>
        have more := ih (List.cons_ne_nil next symbols)
        simp only [List.map_cons, List.intersperse_cons_cons, List.cons_append, listedNames] at more ⊢
        rw [more]
  rw [lexAfter_names nonempty plain fun _ => rfl]
  exact read _

end Script

open Script

variable {template : String} {imports : Imports} (collected : Renderer.Collected imports) (name : String)
include collected

namespace Component.React

/-- The lines of a component's file before the first that has its name. -/
def headerLines (imports : Imports) : List String :=
  "import React from 'react';" :: (imports.toList.map (fun entry => importLine entry.1 entry.2 ++ ";") ++ [""])

theorem linesOf_wrap_eq (template : String) :
    ∃ more, linesOf (wrap name template imports) = headerLines imports ++ more := by
  have imported := newline_not_mem_imports collected.plain collected.sources (by decide : '\n' ∉ ";".toList)
  have started := (((holds_atLevel 0).line "import React from 'react';" (by decide)).addLines _ imported).blank
  have lines : [] ++ [indented 0 "import React from 'react';"] ++
      (imports.toList.map fun entry => importLine entry.1 entry.2 ++ ";").map (indented 0) ++ [""] = headerLines imports := by
    simp [headerLines]
  simp only [level_line, level_atLevel, lines] at started
  have begins := started.begins.line ("export interface " ++ name ++ "Props \x7b") |>.indent
    |>.line "className?: string;" |>.dedent |>.line "\x7d" |>.blank
    |>.line ("export function " ++ name ++ "(\x7b className \x7d: " ++ name ++ "Props) \x7b") |>.indent
    |>.line "return (" |>.raw template |>.raw "\n" |>.line ");" |>.dedent |>.line "\x7d"
  exact linesOf_of_prefix started.whole begins

theorem leadingImports_wrap (template : String) : leadingImports .react (wrap name template imports) =
    .importDefault "React" "react" :: imports.toList.map fun entry => .importNamed entry.2 entry.1 := by
  have library : isImportLine "import React from 'react';" = true := rfl
  have blank : isImportLine "" = false := rfl
  obtain ⟨more, lines⟩ := linesOf_wrap_eq collected name template
  have taken := takeWhile_imports ";" collected.nonempty collected.plain collected.sources blank more
  have imported := statements_imports collected.nonempty collected.plain collected.sources ";"
  have read : Statement.ofTokens? (lex "import React from 'react';") = some (.importDefault "React" "react") := rfl
  rw [leadingImports, moduleLines, lines, headerLines, List.cons_append, List.append_assoc, List.singleton_append,
    List.takeWhile_cons_of_pos library, taken, statements, List.filterMap_cons, read, ← imported]
  rfl

end Component.React

namespace Component.Vue

theorem leadingImports_wrap (template : String) :
    leadingImports .vue (wrap name template imports) = imports.toList.map fun entry => .importNamed entry.2 entry.1 := by
  have ends : ∃ last rest, propertyLines imports = last :: rest ∧ isImportLine last = false := by
    unfold propertyLines
    split
    · exact ⟨_, _, rfl, rfl⟩
    · exact ⟨_, _, rfl, rfl⟩
  obtain ⟨last, rest, lines, other⟩ := ends
  rw [leadingImports, moduleLines_wrap collected, lines,
    takeWhile_imports "" collected.nonempty collected.plain collected.sources other,
    statements_imports collected.nonempty collected.plain collected.sources]

end Component.Vue

namespace Component.Angular

private theorem newline_not_mem_headerLines : ∀ line ∈ headerLines name imports, '\n' ∉ line.toList :=
  not_mem_headerLines (by decide) (by decide) (by decide) name fun entry member =>
    ⟨(collected.sources entry member).not_mem (by decide), fun symbol offered =>
      (collected.plain entry member symbol offered).not_mem (by decide)⟩

theorem linesOf_wrap_eq (template : String) :
    ∃ more, linesOf (wrap name template imports) = headerLines name imports ++ more := by
  refine linesOf_of_prefix (newline_not_mem_headerLines collected name) ?_
  rw [wrap_eq, beforeTemplate, List.append_assoc]
  exact List.prefix_append _ _

theorem leadingImports_wrap (template : String) : leadingImports .angular (wrap name template imports) =
    (allImports imports).map fun entry => .importNamed entry.2 entry.1 := by
  have blank : isImportLine "" = false := rfl
  obtain ⟨more, lines⟩ := linesOf_wrap_eq collected name template
  have nonempty := nonempty_allImports collected
  have plain := plain_allImports collected
  have legible := sources_allImports collected
  rw [leadingImports, moduleLines, lines, headerLines, List.append_assoc, List.cons_append,
    takeWhile_imports ";" nonempty plain legible blank, statements_imports nonempty plain legible]

theorem usedNames_wrap (template : String) :
    usedNames (wrap name template imports) = "CommonModule" :: imports.symbols := by
  obtain ⟨more, lines⟩ := linesOf_wrap_eq collected name template
  have unlisted : ((allImports imports).map fun entry => importLine entry.1 entry.2 ++ ";").findSome? usedNames? = none := by
    rw [List.findSome?_eq_none_iff]
    intro line member
    obtain ⟨entry, -, rfl⟩ := List.mem_map.mp member
    exact usedNames?_of_word (lex_importLine _ _ _) (by decide)
  have common : Naming.IsPlain "CommonModule" := by decide
  have plain : ∀ symbol ∈ "CommonModule" :: imports.symbols, Naming.IsPlain symbol := by
    refine List.forall_mem_cons.mpr ⟨common, fun symbol member => ?_⟩
    obtain ⟨entry, listed, offered⟩ := List.mem_flatMap.mp member
    exact collected.plain entry listed symbol offered
  have selector : usedNames? (indented 1 ("selector: 'app-" ++ kebabCase name ++ "',")) = none := by
    have read : ∀ rest, lexAfter .nothing ("  selector: '".toList ++ rest) =
        .word "selector" :: .mark ':' :: lexAfter (.quoted []) rest := fun _ => rfl
    have spelled : (indented 1 ("selector: 'app-" ++ kebabCase name ++ "',")).toList =
        "  selector: '".toList ++ ("app-".toList ++ ((kebabCase name).toList ++ "',".toList)) := by
      rw [indented, String.toList_append, String.toList_append, String.toList_append]
      rfl
    exact usedNames?_of_word (by rw [lex, spelled, read]) (by decide)
  have listed : usedNames? (indented 1 ("imports: [" ++ String.intercalate ", " ("CommonModule" :: imports.symbols) ++ "],")) =
      some ("CommonModule" :: imports.symbols) := by
    have read : ∀ rest, lexAfter .nothing ("  imports: [".toList ++ rest) =
        .word "imports" :: .mark ':' :: .mark '[' :: lexAfter .nothing rest := fun _ => rfl
    have spelled : (indented 1 ("imports: [" ++ String.intercalate ", " ("CommonModule" :: imports.symbols) ++ "],")).toList =
        "  imports: [".toList ++ ((String.intercalate ", " ("CommonModule" :: imports.symbols)).toList ++ ']' :: [',']) := by
      rw [indented, String.toList_append, String.toList_append, String.toList_append]
      rfl
    rw [usedNames?, lex, spelled, read]
    exact congrArg some (listedNames_lexed (List.cons_ne_nil _ _) plain [','])
  have blank : usedNames? "" = none := rfl
  have decorator : usedNames? "@Component(\x7b" = none := rfl
  have standalone : usedNames? (indented 1 "standalone: true,") = none := rfl
  rw [usedNames, lines, headerLines]
  simp only [List.findSome?_append, List.findSome?_cons, unlisted, blank, decorator, selector, standalone, listed]
  rfl

end Component.Angular

omit collected in
/-- A file begins with the imports of its target and then what its design needs from the library. -/
theorem Script.leadingImports_render (target : Target) (tokens : Option Classes.TokenMap) (node : Node) :
    leadingImports target (target.renderer.render tokens node name) =
      target.baseStatements ++
        (target.renderer.imports node.withoutDecoration).toList.map fun entry => .importNamed entry.2 entry.1 := by
  have collected := Renderer.collected_imports (isLegible_library target) node.withoutDecoration
  cases target with
  | react => exact React.leadingImports_wrap collected name _
  | vue => exact Vue.leadingImports_wrap collected name _
  | angular =>
    refine (Angular.leadingImports_wrap collected name _).trans ?_
    simp [Angular.allImports, Target.baseStatements, Function.comp_def]

end Handoff
