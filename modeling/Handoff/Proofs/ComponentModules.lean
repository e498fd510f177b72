import Handoff.Proofs.ImportLines
import Handoff.Proofs.TemplateReading

/-! The files of components, read as modules. A file imports what its design needs from the
library and declares what its target declares; the template it embeds adds nothing to that,
whatever the design says. -/

namespace Handoff
open Naming Text Component Script Markup CodeBuilder

/-- Printed markup ends where it began and opens no expression. -/
theorem Target.closed_template (target : Target) (tokens : Option Classes.TokenMap) (node : Node) :
    Closed (target.renderer.style.print (target.renderer.markup tokens node)).toList := by
  have sound := target.sound_style
  have legible := target.legible_markup tokens node
  have opening := sound.openBrace.passes_spelled sound.opening legible target.renderer.style.baseLevel
  have closing := sound.closeBrace.passes_spelled sound.opening legible target.renderer.style.baseLevel
  cases found : target.renderer.markup tokens node with
  | text s => rw [found] at legible; cases legible
  | element tag attributes children =>
    rw [found] at opening closing
    rw [toList_print]
    exact ⟨opening.1, opening.2, closing.2⟩

/-- The names that a target declares in the file of a component. -/
def Target.declares (target : Target) (name : String) : List String :=
  match target with
  | .react => [name ++ "Props", name]
  | .angular => [name ++ "Component"]
  | .vue => []

/-- What a target imports before what its library offers. -/
def Target.baseStatements : Target → List Statement
  | .react => [.importDefault "React" "react"]
  | .angular => Angular.baseImports.map fun (module, symbol) => .importNamed [symbol] module
  | .vue => []

variable {name template : String} {imports : Imports}

namespace Component.React

theorem linesOf_wrap (plain : Naming.IsPlain name) (collected : Renderer.Collected imports) :
    linesOf (wrap name template imports) =
      "import React from 'react';" ::
        (imports.toList.map (fun entry => importLine entry.1 entry.2 ++ ";") ++
          ("" :: ("export interface " ++ name ++ "Props \x7b") :: indented 1 "className?: string;" :: "\x7d" :: "" ::
            ("export function " ++ name ++ "(\x7b className \x7d: " ++ name ++ "Props) \x7b") ::
            indented 1 "return (" :: (linesOf template ++ [indented 1 ");", "\x7d", ""]))) := by
  have whole : '\n' ∉ name.toList := plain.not_mem (by decide)
  have imported := newline_not_mem_imports collected.plain collected.sources (by decide : '\n' ∉ ";".toList)
  have holds := ((((holds_atLevel 0).line "import React from 'react';" (by decide)).addLines _ imported).blank
    |>.line ("export interface " ++ name ++ "Props \x7b") (by simpa using whole) |>.indent
    |>.line "className?: string;" (by decide) |>.dedent |>.line "\x7d" (by decide) |>.blank
    |>.line ("export function " ++ name ++ "(\x7b className \x7d: " ++ name ++ "Props) \x7b") (by simpa using whole)
    |>.indent |>.line "return (" (by decide) |>.raw template |>.line ");" (by decide) |>.dedent
    |>.line "\x7d" (by decide))
  simpa [wrap, CodeBuilder.empty] using holds.linesOf_text

theorem topLines_wrap (plain : Naming.IsPlain name) (collected : Renderer.Collected imports)
    (closed : Closed template.toList) :
    topLines (.code 0) (linesOf (wrap name template imports)) =
      "import React from 'react';" ::
        (imports.toList.map (fun entry => importLine entry.1 entry.2 ++ ";") ++
          ["", "export interface " ++ name ++ "Props \x7b", "",
            "export function " ++ name ++ "(\x7b className \x7d: " ++ name ++ "Props) \x7b", ""]) := by
  have flat : ∀ c ∈ name.toList, Nesting.isFlat c = true := fun c member => isFlat_of_isNamePart (plain.parts c member)
  have interface : (Nesting.code 0).afterText ("export interface " ++ name ++ "Props \x7b").toList = .code 1 :=
    Nesting.afterText_around 0 rfl flat rfl
  have function : (Nesting.code 0).afterText
      ("export function " ++ name ++ "(\x7b className \x7d: " ++ name ++ "Props) \x7b").toList = .code 1 :=
    Nesting.afterText_around 0 (Nesting.afterText_around 0 rfl flat rfl) flat rfl
  -- Only the interface and the function leave a brace open at the end of their first lines,
  -- and the template stands inside the function.
  rw [linesOf_wrap plain collected, topLines_top 0 rfl,
    topLines_imports collected.plain collected.sources (by decide), topLines_top 0 rfl, topLines_top 1 interface,
    topLines_inner 1 (by decide) rfl, topLines_inner 0 (by decide) rfl, topLines_top 0 rfl, topLines_top 1 function,
    topLines_inner 1 (by decide) rfl, topLines_template closed (by decide), topLines_inner 1 (by decide) rfl,
    topLines_inner 0 (by decide) rfl]
  rfl

theorem moduleStatements_wrap (plain : Naming.IsPlain name) (collected : Renderer.Collected imports)
    (closed : Closed template.toList) :
    moduleStatements .react (wrap name template imports) =
      .importDefault "React" "react" :: imports.toList.map (fun entry => .importNamed entry.2 entry.1) ++
        [.exportDeclared (name ++ "Props"), .exportDeclared name] := by
  have interface : Statement.ofTokens? (lex ("export interface " ++ name ++ "Props \x7b")) =
      some (.exportDeclared (name ++ "Props")) :=
    ofTokens?_declaration "export interface " "Props" _ (by decide) (fun _ => rfl) plain (by decide) ⟨_, _, rfl, by decide, by decide⟩
  have function : Statement.ofTokens? (lex ("export function " ++ name ++ "(\x7b className \x7d: " ++ name ++ "Props) \x7b")) =
      some (.exportDeclared name) := by
    have joined : "export function " ++ name ++ "(\x7b className \x7d: " ++ name ++ "Props) \x7b" =
        "export function " ++ name ++ ("(\x7b className \x7d: " ++ name ++ "Props) \x7b") := by
      simp only [String.append_assoc]
    have read := ofTokens?_declaration "export function " "" ("(\x7b className \x7d: " ++ name ++ "Props) \x7b")
      (by decide) (fun _ => rfl) plain (by decide)
      ⟨'(', _, by rw [String.toList_append, String.toList_append]; rfl, by decide, by decide⟩
    rw [joined, read, String.append_empty]
  have blank : Statement.ofTokens? (lex "") = none := rfl
  have base : Statement.ofTokens? (lex "import React from 'react';") = some (.importDefault "React" "react") := rfl
  have imported := statements_imports collected.nonempty collected.plain collected.sources ";"
  rw [moduleStatements, moduleLines, topLines_wrap plain collected closed]
  simp only [statements, List.filterMap_cons, List.filterMap_append, base, blank, interface, function, List.filterMap_nil] at imported ⊢
  rw [imported]
  rfl

end Component.React

namespace Component.Angular

theorem after_backslash (zone : Zone) : zone.after '\\' = zone := by
  cases zone <;> rfl

/-- Escapes of a template literal do not move a reader of the template. -/
theorem foldl_escapeLiteral (zone : Zone) (text : List Char) :
    (escapeLiteral text).foldl Zone.after zone = text.foldl Zone.after zone := by
  fun_induction escapeLiteral text generalizing zone <;> simp_all [List.foldl_cons, after_backslash]

private theorem mem_outsideValues_escapeLiteral {c : Char} (other : c ≠ '\\') {zone : Zone} {text : List Char}
    (member : c ∈ outsideValues zone (escapeLiteral text)) : c ∈ outsideValues zone text := by
  fun_induction escapeLiteral text generalizing zone <;> simp only [outsideValues, after_backslash] at member ⊢ <;> grind

private theorem closed_escapeLiteral {text : List Char} (closed : Closed text) : Closed (escapeLiteral text) where
  content := (foldl_escapeLiteral .content text).trans closed.content
  openBrace := fun member => closed.openBrace (mem_outsideValues_escapeLiteral (by decide) member)
  closeBrace := fun member => closed.closeBrace (mem_outsideValues_escapeLiteral (by decide) member)

/-- What a component imports, the base of every component first. -/
def allImports (imports : Imports) : List (String × List String) :=
  baseImports.map (fun (module, symbol) => (module, [symbol])) ++ imports.toList

theorem sources_allImports (collected : Renderer.Collected imports) : ∀ entry ∈ allImports imports, IsSource entry.1 :=
  List.forall_mem_append.mpr ⟨by decide, collected.sources⟩

theorem nonempty_allImports (collected : Renderer.Collected imports) : ∀ entry ∈ allImports imports, entry.2 ≠ [] :=
  List.forall_mem_append.mpr ⟨by decide, collected.nonempty⟩

theorem plain_allImports (collected : Renderer.Collected imports) :
    ∀ entry ∈ allImports imports, ∀ symbol ∈ entry.2, Naming.IsPlain symbol :=
  List.forall_mem_append.mpr ⟨by decide, collected.plain⟩

/-- The symbols that a standalone component lists are written out of names, commas and blanks. -/
theorem mem_listedSymbols (collected : Renderer.Collected imports) :
    ∀ c ∈ (String.intercalate ", " ("CommonModule" :: imports.symbols)).toList, isNamePart c = true ∨ c = ',' ∨ c = ' ' := by
  have common : Naming.IsPlain "CommonModule" := by decide
  refine forall_mem_intercalate (P := fun c => isNamePart c = true ∨ c = ',' ∨ c = ' ') (by simp) ?_
  refine List.forall_mem_cons.mpr ⟨fun c inside => .inl (common.parts c inside), fun symbol member c inside => ?_⟩
  obtain ⟨entry, listed, offered⟩ := List.mem_flatMap.mp member
  exact .inl ((collected.plain entry listed symbol offered).parts c inside)

theorem linesOf_wrap (plain : Naming.IsPlain name) (collected : Renderer.Collected imports) :
    linesOf (wrap name template imports) =
      (allImports imports).map (fun entry => importLine entry.1 entry.2 ++ ";") ++
        ("" :: "@Component(\x7b" :: indented 1 ("selector: 'app-" ++ kebabCase name ++ "',") ::
          indented 1 "standalone: true," ::
          indented 1 ("imports: [" ++ String.intercalate ", " ("CommonModule" :: imports.symbols) ++ "],") ::
          indented 1 "template: \x60" :: (linesOf (String.ofList (escapeLiteral template.toList)) ++
            [indented 1 "\x60,", "\x7d)", "export class " ++ name ++ "Component \x7b\x7d", ""])) := by
  have whole : '\n' ∉ name.toList := plain.not_mem (by decide)
  have selector : '\n' ∉ (kebabCase name).toList := by
    intro member
    rcases isNamePart_kebabCase name _ member with part | hyphen
    · exact ne_of_isNamePart part (by decide) rfl
    · cases hyphen
  have symbols : '\n' ∉ (String.intercalate ", " ("CommonModule" :: imports.symbols)).toList := by
    intro member
    rcases mem_listedSymbols collected _ member with part | mark
    · exact ne_of_isNamePart part (by decide) rfl
    · exact absurd mark (by decide)
  have imported := newline_not_mem_imports (plain_allImports collected) (sources_allImports collected)
    (by decide : '\n' ∉ ";".toList)
  rw [allImports, List.map_append] at imported
  obtain ⟨base, library⟩ := List.forall_mem_append.mp imported
  have holds := (((holds_atLevel 0).addLines _ base).addLines _ library).blank
    |>.line "@Component(\x7b" (by decide) |>.indent
    |>.line ("selector: 'app-" ++ kebabCase name ++ "',") (by simpa using selector)
    |>.line "standalone: true," (by decide)
    |>.line ("imports: [" ++ String.intercalate ", " ("CommonModule" :: imports.symbols) ++ "],")
      (by rw [String.toList_append, String.toList_append]; simpa using symbols)
    |>.line "template: \x60" (by decide) |>.raw (String.ofList (escapeLiteral template.toList))
    |>.line "\x60," (by decide) |>.dedent |>.line "\x7d)" (by decide)
    |>.line ("export class " ++ name ++ "Component \x7b\x7d") (by simpa using whole)
  simpa [wrap, CodeBuilder.empty, allImports, Function.comp_def] using holds.linesOf_text

theorem topLines_wrap (plain : Naming.IsPlain name) (collected : Renderer.Collected imports)
    (closed : Closed template.toList) :
    topLines (.code 0) (linesOf (wrap name template imports)) =
      (allImports imports).map (fun entry => importLine entry.1 entry.2 ++ ";") ++
        ["", "@Component(\x7b", "export class " ++ name ++ "Component \x7b\x7d", ""] := by
  have selector : (Nesting.code 1).afterText (indented 1 ("selector: 'app-" ++ kebabCase name ++ "',")).toList = .code 1 := by
    rw [indented, ← String.append_assoc, ← String.append_assoc]
    refine Nesting.afterText_around 1 rfl (fun c member => ?_) rfl
    rcases isNamePart_kebabCase name c member with part | rfl
    · exact isFlat_of_isNamePart part
    · rfl
  have listed : (Nesting.code 1).afterText
      (indented 1 ("imports: [" ++ String.intercalate ", " ("CommonModule" :: imports.symbols) ++ "],")).toList = .code 1 := by
    rw [indented, ← String.append_assoc, ← String.append_assoc]
    refine Nesting.afterText_around 1 rfl (fun c member => ?_) rfl
    rcases mem_listedSymbols collected c member with part | rfl | rfl
    · exact isFlat_of_isNamePart part
    · rfl
    · rfl
  have literal : Closed (String.ofList (escapeLiteral template.toList)).toList := by
    rw [String.toList_ofList]
    exact closed_escapeLiteral closed
  have declaration : (Nesting.code 0).afterText ("export class " ++ name ++ "Component \x7b\x7d").toList = .code 0 :=
    Nesting.afterText_around 0 rfl (fun c member => isFlat_of_isNamePart (plain.parts c member)) rfl
  rw [linesOf_wrap plain collected,
    topLines_imports (plain_allImports collected) (sources_allImports collected) (by decide), topLines_top 0 rfl,
    topLines_top 1 rfl, topLines_inner 1 (by decide) selector, topLines_inner 1 (by decide) rfl,
    topLines_inner 1 (by decide) listed, topLines_inner 1 (by decide) rfl, topLines_template literal (by decide),
    topLines_inner 1 (by decide) rfl, topLines_inner 0 (by decide) rfl, topLines_top 0 declaration]
  rfl

theorem moduleStatements_wrap (plain : Naming.IsPlain name) (collected : Renderer.Collected imports)
    (closed : Closed template.toList) :
    moduleStatements .angular (wrap name template imports) =
      (allImports imports).map (fun entry => .importNamed entry.2 entry.1) ++ [.exportDeclared (name ++ "Component")] := by
  have exported : Statement.ofTokens? (lex ("export class " ++ name ++ "Component \x7b\x7d")) =
      some (.exportDeclared (name ++ "Component")) :=
    ofTokens?_declaration "export class " "Component" _ (by decide) (fun _ => rfl) plain (by decide) ⟨_, _, rfl, by decide, by decide⟩
  have blank : Statement.ofTokens? (lex "") = none := rfl
  have decorator : Statement.ofTokens? (lex "@Component(\x7b") = none := rfl
  have imported := statements_imports (nonempty_allImports collected) (plain_allImports collected)
    (sources_allImports collected) ";"
  rw [moduleStatements, moduleLines, topLines_wrap plain collected closed]
  simp only [statements, List.filterMap_cons, List.filterMap_append, blank, decorator, exported, List.filterMap_nil] at imported ⊢
  rw [imported]

end Component.Angular

namespace Component.Vue

theorem linesOf_wrap (collected : Renderer.Collected imports) :
    linesOf (wrap name template imports) =
      "<script setup lang=\"ts\">" :: (imports.toList.map (fun entry => importLine entry.1 entry.2) ++
        ((if imports.isEmpty then [] else [""]) ++
          ("interface Props \x7b" :: indented 1 "class?: string" :: "\x7d" :: "" :: "defineProps<Props>()" ::
            "</script>" :: "" :: "<template>" :: (linesOf template ++ ["</template>", ""])))) := by
  have imported : ∀ line ∈ imports.toList.map (fun entry => importLine entry.1 entry.2), '\n' ∉ line.toList := by
    simpa using newline_not_mem_imports collected.plain collected.sources (by decide : '\n' ∉ "".toList)
  have head := ((holds_atLevel 0).line "<script setup lang=\"ts\">" (by decide)).addLines _ imported
  have holds : ∀ {b : CodeBuilder} {lines : List String}, b.level = 0 → b.Holds lines →
      linesOf (b.line "interface Props \x7b" |>.indent |>.line "class?: string" |>.dedent |>.line "\x7d"
        |>.blank |>.line "defineProps<Props>()" |>.line "</script>" |>.blank |>.line "<template>"
        |>.raw template |>.raw "\n" |>.line "</template>" |>.text) = lines ++
          ("interface Props \x7b" :: indented 1 "class?: string" :: "\x7d" :: "" :: "defineProps<Props>()" ::
            "</script>" :: "" :: "<template>" :: (linesOf template ++ ["</template>", ""])) := by
    intro b lines level holds
    have whole := holds.line "interface Props \x7b" (by decide) |>.indent |>.line "class?: string" (by decide)
      |>.dedent |>.line "\x7d" (by decide) |>.blank |>.line "defineProps<Props>()" (by decide)
      |>.line "</script>" (by decide) |>.blank |>.line "<template>" (by decide) |>.raw template
      |>.line "</template>" (by decide)
    simpa [level] using whole.linesOf_text
  unfold wrap
  dsimp only
  split
  · exact (holds (by simp) head).trans (by simp)
  · exact (holds (by simp) head.blank).trans (by simp)

/-- The lines of the script after what it imports. -/
def propertyLines (imports : Imports) : List String :=
  (if imports.isEmpty then [] else [""]) ++
    ["interface Props \x7b", indented 1 "class?: string", "\x7d", "", "defineProps<Props>()"]

/-- The module of a component for Vue is its script. -/
theorem moduleLines_wrap (collected : Renderer.Collected imports) :
    moduleLines .vue (wrap name template imports) =
      imports.toList.map (fun entry => importLine entry.1 entry.2 ++ "") ++ propertyLines imports := by
  have unclosed : ∀ line ∈ imports.toList.map (fun entry => importLine entry.1 entry.2 ++ "") ++ propertyLines imports,
      closedTag? line ≠ some "script" := by
    refine List.forall_mem_append.mpr ⟨fun line member => ?_, List.forall_mem_append.mpr ⟨?_, by decide⟩⟩
    · obtain ⟨entry, -, rfl⟩ := List.mem_map.mp member
      rw [closedTag?_importLine]
      exact Option.some_ne_none _ |>.symm
    · split <;> decide
  have opened : openedTag? "<script setup lang=\"ts\">" = some "script" := rfl
  have closed : closedTag? "</script>" = some "script" := rfl
  have cut := innerLines_eq ("" :: "<template>" :: (linesOf template ++ ["</template>", ""]))
    (List.forall_mem_nil _) opened unclosed closed
  rw [moduleLines, linesOf_wrap collected]
  simpa [propertyLines] using cut

/-- Nothing in the file of a component for Vue is exported by name. -/
theorem moduleStatements_wrap (collected : Renderer.Collected imports) :
    moduleStatements .vue (wrap name template imports) = imports.toList.map fun entry => .importNamed entry.2 entry.1 := by
  have ending : statements (topLines (.code 0) (propertyLines imports)) = [] := by
    unfold propertyLines
    split <;> rfl
  have imported := statements_imports collected.nonempty collected.plain collected.sources ""
  rw [moduleStatements, moduleLines_wrap collected, topLines_imports collected.plain collected.sources (by decide), statements,
    List.filterMap_append]
  simp only [statements] at imported ending
  rw [imported, ending, List.append_nil]

end Component.Vue

namespace Script

/-- A component's file imports the base of its target and what its design needs from the
library, and exports what its target declares. -/
theorem moduleStatements_render (target : Target) {name : String} (plain : Naming.IsPlain name)
    (tokens : Option Classes.TokenMap) (node : Node) :
    moduleStatements target (target.renderer.render tokens node name) =
      target.baseStatements ++
        (target.renderer.imports node.withoutDecoration).toList.map (fun entry => .importNamed entry.2 entry.1) ++
          (target.declares name).map .exportDeclared := by
  have collected := Renderer.collected_imports (isLegible_library target) node.withoutDecoration
  have closed := target.closed_template tokens node.withoutDecoration
  cases target with
  | react => exact React.moduleStatements_wrap plain collected closed
  | vue => exact (@Vue.moduleStatements_wrap name _ _ collected).trans (by simp [Target.baseStatements, Target.declares])
  | angular =>
    refine (Angular.moduleStatements_wrap plain collected closed).trans ?_
    simp [Angular.allImports, Target.baseStatements, Target.declares, Function.comp_def]

theorem exportedNames_render (target : Target) {name : String} (plain : Naming.IsPlain name)
    (tokens : Option Classes.TokenMap) (node : Node) :
    exportedNames target (target.renderer.render tokens node name) = target.declares name := by
  have base : target.baseStatements.flatMap Statement.exported = [] := by cases target <;> rfl
  rw [exportedNames, moduleStatements_render target plain, List.flatMap_append, List.flatMap_append, base]
  simp [List.flatMap_map, Statement.exported]

theorem boundNames_render (target : Target) {name : String} (plain : Naming.IsPlain name)
    (tokens : Option Classes.TokenMap) (node : Node) :
    boundNames target (target.renderer.render tokens node name) =
      target.baseStatements.flatMap Statement.bound ++
        (target.renderer.imports node.withoutDecoration).symbols ++ target.declares name := by
  rw [boundNames, moduleStatements_render target plain, List.flatMap_append, List.flatMap_append]
  simp [List.flatMap_map, Statement.bound, Imports.symbols]

end Script

end Handoff
