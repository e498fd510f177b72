import Handoff.Page.Document
import Handoff.Proofs.ClassStems
import Handoff.Proofs.ImportLines
import Handoff.Proofs.MarkupRoundTrip

/-! Reading a page. Its script stands between two fences and says what the page imports; in
its body, the elements that close themselves are the components that it mounts. -/

namespace Handoff.Page
open Text Naming Script CodeBuilder

/-- The lines between the first fence and the next. -/
def fenced (lines : List String) : List String := ((lines.dropWhile (· ≠ fence)).drop 1).takeWhile (· ≠ fence)

def scriptStatements (page : String) : List Statement := statements (fenced (linesOf page))

def closesItself (line : String) : Bool :=
  match line.toList.reverse with
  | '>' :: '/' :: _ => true
  | _ => false

/-- The tag of a line that is an element without content. -/
def mountedTag? (line : String) : Option String := if closesItself line then openedTag? line else none

/-- The tags that the body of a page mounts, in order. -/
def mountedTags (page : String) : List String := (innerLines "body" (linesOf page)).filterMap mountedTag?

/-- The lines of the body of a page that mount something, as they are written. -/
def mountLines (page : String) : List String := (innerLines "body" (linesOf page)).filter closesItself

variable {root : Node} {name title description : String} {mounts : List Mount}

theorem isPlain_symbol {mount : Mount} (plain : IsPlain mount.name) : IsPlain mount.symbol := by
  unfold Mount.symbol exportedSymbol
  split
  · exact isPlain_append plain (by decide)
  · exact plain
  · exact plain

private theorem isSource_modulePath {mount : Mount} (plain : IsPlain mount.name) : Component.IsSource mount.modulePath := by
  have directory : ∀ c ∈ "../components/sections/".toList, Component.isSourcePart c = true := by decide
  have ending : ∀ c ∈ ("." ++ mount.target.extension).toList, Component.isSourcePart c = true := by
    cases mount.target <;> decide
  have file : ∀ c ∈ mount.name.toList, Component.isSourcePart c = true :=
    fun c member => by simp [Component.isSourcePart, plain.parts c member]
  unfold Component.IsSource Mount.modulePath Component.fileName
  rw [String.append_assoc, String.toList_append, String.toList_append]
  exact List.forall_mem_append.mpr ⟨directory, List.forall_mem_append.mpr ⟨file, ending⟩⟩

private theorem newline_not_mem_literal (s : String) : '\n' ∉ (literal s).toList := by
  have escaped : '\n' ∉ (Text.escape literalEscapes s).toList := Markup.not_mem_escape (by decide) s
  simpa [literal] using escaped

/-- The lines of a script that follow its imports. -/
def constants (title description : String) : List String :=
  ["", "const title = " ++ literal title ++ ";", "const description = " ++ literal description ++ ";"]

theorem scriptLines_eq (mounts : List Mount) (title description : String) :
    scriptLines mounts title description =
      fence :: (stylesheetImport :: (mounts.map Mount.importLine ++ constants title description)) ++ [fence] := by
  simp [scriptLines, constants]

private theorem newline_not_mem_mount {mount : Mount} (whole : '\n' ∉ mount.name.toList) : '\n' ∉ mount.importLine.toList := by
  have symbol : '\n' ∉ mount.symbol.toList := by
    unfold Mount.symbol exportedSymbol
    split
    · exact not_mem_append whole (by decide)
    · exact whole
    · exact whole
  have extension : '\n' ∉ mount.target.extension.toList := by cases mount.target <;> decide
  have path : '\n' ∉ mount.modulePath.toList := not_mem_append (by decide) (not_mem_append (not_mem_append whole (by decide)) extension)
  exact not_mem_append (not_mem_importLine (by decide) path (List.forall_mem_singleton.mpr symbol)) (by decide)

private theorem newline_not_mem_scriptLines (whole : ∀ mount ∈ mounts, '\n' ∉ mount.name.toList) (title description : String) :
    ∀ line ∈ scriptLines mounts title description, '\n' ∉ line.toList := by
  have fixed : ∀ s ∈ ["---", "import '../styles/global.css';", "", "const title = ", "const description = ", ";"],
      '\n' ∉ s.toList := by decide
  have assigned : ∀ start ∈ ["const title = ", "const description = "], ∀ value,
      '\n' ∉ (start ++ literal value ++ ";").toList := by
    intro start listed value
    have before := fixed start (by grind)
    simpa using ⟨before, newline_not_mem_literal value⟩
  rw [scriptLines_eq]
  simp only [List.cons_append, List.append_assoc, List.forall_mem_cons, List.forall_mem_append, constants,
    List.nil_append]
  refine ⟨fixed _ (by decide), fixed _ (by decide), ?_, fixed _ (by decide), assigned _ (by decide) _,
    assigned _ (by decide) _, fixed _ (by decide), List.forall_mem_nil _⟩
  intro line member
  obtain ⟨mount, listed, rfl⟩ := List.mem_map.mp member
  exact newline_not_mem_mount (whole mount listed)

/-- What precedes the body's first line, after the script. -/
def beforeBody : List String :=
  "" :: "<!doctype html>" :: "<html lang=\"en\">" :: indented 1 "<head>" ::
    (headLines.map (indented 2) ++ [indented 1 "</head>"])

def bodyLine (root : Node) : String := indented 1 ("<body class=\"" ++ (bodyClasses root.value).text ++ "\">")

def mainLine : String := indented 2 "<main class=\"min-h-screen w-full\">"

private theorem newline_not_mem_bodyClasses (layer : Layer) : '\n' ∉ (bodyClasses layer).text.toList := by
  refine Classes.newline_not_mem_text (List.forall_mem_append.mpr ⟨List.forall_mem_append.mpr ⟨by decide, ?_⟩, by decide⟩)
  split
  · decide
  · exact Classes.isSolid_fillClasses layer.fills Classes.keepSolid_none

theorem linesOf_text (root : Node) (name : String) (whole : ∀ mount ∈ mounts, '\n' ∉ mount.name.toList)
    (title description : String) :
    linesOf (text root name mounts title description) =
      scriptLines mounts (if title.isEmpty then name else title) description ++ (beforeBody ++
        bodyLine root :: (mainLine :: linesOf (content root mounts) ++ [indented 2 "</main>"] ++
          indented 1 "</body>" :: ["</html>", ""])) := by
  have classes := newline_not_mem_bodyClasses root.value
  have script := newline_not_mem_scriptLines whole (if title.isEmpty then name else title) description
  -- every call of the builder adds one line, but for what is shown, which brings its own lines
  have holds := ((holds_atLevel 0).addLines _ script).blank
    |>.addLines ["<!doctype html>", "<html lang=\"en\">"] (by decide) |>.indent
    |>.line "<head>" (by decide) |>.indent |>.addLines headLines (by decide +kernel) |>.dedent
    |>.line "</head>" (by decide)
    |>.line ("<body class=\"" ++ (bodyClasses root.value).text ++ "\">")
      (by rw [String.toList_append, String.toList_append]; simpa using classes) |>.indent
    |>.line "<main class=\"min-h-screen w-full\">" (by decide) |>.raw (content root mounts)
    |>.line "</main>" (by decide) |>.dedent |>.line "</body>" (by decide) |>.dedent
    |>.line "</html>" (by decide)
  have lines := holds.linesOf_text
  simpa [text, opening, CodeBuilder.empty, beforeBody, bodyLine, mainLine] using lines

/-- After its tag, a mounted element goes on with a blank and ends itself. -/
theorem element_eq (mount : Mount) :
    ∃ rest, mount.element = "<" ++ mount.symbol ++ (" " ++ rest ++ "/>") ∧ '\n' ∉ rest.toList := by
  have ending : ∃ rest, String.join mount.directives ++ " />" = " " ++ rest ++ "/>" ∧ '\n' ∉ rest.toList := by
    unfold Mount.directives
    cases mount.target with
    | angular => exact ⟨"client:only=\"angular\" ", rfl, by decide⟩
    | react | vue =>
      cases mount.activation with
      | eager => exact ⟨"client:load ", by decide, by decide⟩
      | lazy => exact ⟨"client:visible ", by decide, by decide⟩
      | none => exact ⟨"", by decide, by decide⟩
  obtain ⟨rest, spelling, whole⟩ := ending
  exact ⟨rest, by rw [Mount.element, String.append_assoc, spelling], whole⟩

theorem lex_element {mount : Mount} (plain : IsPlain mount.name) :
    ∃ tail, lex (indented 4 mount.element) = .mark '<' :: .word mount.symbol :: tail := by
  obtain ⟨rest, element, -⟩ := element_eq mount
  have opening : ∀ more, lexAfter .nothing ((indentation 4 ++ "<").toList ++ more) = .mark '<' :: lexAfter .nothing more :=
    fun _ => rfl
  obtain ⟨tail, ended⟩ := lexAfter_ended mount.symbol.toList.reverse (rest ++ "/>").toList
    (by decide : isWordPart ' ' = false) (by decide)
  have spelling : (indented 4 mount.element).toList =
      (indentation 4 ++ "<").toList ++ (mount.symbol.toList ++ (' ' :: (rest ++ "/>").toList)) := by
    simp [indented, element]
  refine ⟨tail, ?_⟩
  rw [lex, spelling, opening, lexAfter_name (isPlain_symbol plain), ended, List.reverse_reverse, String.ofList_toList]

theorem closesItself_element (mount : Mount) : closesItself (indented 4 mount.element) = true := by
  obtain ⟨rest, element, -⟩ := element_eq mount
  simp [closesItself, indented, element]

private theorem mountedTag?_element {mount : Mount} (plain : IsPlain mount.name) :
    mountedTag? (indented 4 mount.element) = some mount.symbol := by
  obtain ⟨tail, tokens⟩ := lex_element plain
  rw [mountedTag?, if_pos (closesItself_element mount), openedTag?, tokens]
  rfl

private theorem newline_not_mem_element {mount : Mount} (plain : IsPlain mount.name) : '\n' ∉ mount.element.toList := by
  obtain ⟨rest, element, whole⟩ := element_eq mount
  have symbol : '\n' ∉ mount.symbol.toList := (isPlain_symbol plain).not_mem (by decide)
  rw [element]
  simpa using ⟨symbol, whole⟩

/-- The line that opens the container of what a page mounts. -/
def containerLine (root : Node) : String :=
  "<div class=\"" ++ (Classes.ClassList.ofList (Classes.containerClasses root ++ centeringClasses)).text ++ "\">"

private theorem newline_not_mem_containerLine (root : Node) : '\n' ∉ (containerLine root).toList := by
  have classes : '\n' ∉ (Classes.ClassList.ofList (Classes.containerClasses root ++ centeringClasses)).text.toList :=
    Classes.newline_not_mem_text (List.forall_mem_append.mpr ⟨Classes.isSolid_containerClasses root, by decide⟩)
  rw [containerLine, String.toList_append, String.toList_append]
  simpa using classes

private theorem linesOf_mountedContent (root : Node) (named : ∀ mount ∈ mounts, IsPlain mount.name) :
    linesOf (mountedContent root mounts) =
      indented 3 (containerLine root) :: (mounts.map (fun mount => indented 4 mount.element) ++ [indented 3 "</div>"]) := by
  have elements : ∀ line ∈ mounts.map Mount.element, '\n' ∉ line.toList := by
    intro line member
    obtain ⟨mount, listed, rfl⟩ := List.mem_map.mp member
    exact newline_not_mem_element (named mount listed)
  have holds := ((holds_atLevel 3).line _ (newline_not_mem_containerLine root)).indent
    |>.addLines _ elements |>.dedent |>.line "</div>" (by decide)
  have lines := holds.linesOf_trimmed List.getLast?_concat (by simp [indented])
  simpa [mountedContent, containerLine, contentLevel, Function.comp_def] using lines

private theorem fenced_scriptLines (inner rest : List String) (distinct : ∀ line ∈ inner, line ≠ fence) :
    fenced (fence :: inner ++ [fence] ++ rest) = inner := by
  have unfenced : ∀ line ∈ inner, decide (line ≠ fence) = true := by simpa using distinct
  have start : (fence :: inner ++ [fence] ++ rest).dropWhile (· ≠ fence) = fence :: (inner ++ fence :: rest) := by
    simp
  rw [fenced, start, List.drop_one, List.tail_cons, List.takeWhile_append_of_pos unfenced]
  simp

theorem lex_of_mem_constants {line : String} (member : line ∈ constants title description) :
    line = "" ∨ ∃ tail, lex line = .word "const" :: tail := by
  simp only [constants, List.mem_cons, List.not_mem_nil, or_false] at member
  rcases member with rfl | rfl | rfl
  · exact .inl rfl
  · right
    rw [lex, String.append_assoc, String.toList_append]
    exact ⟨_, rfl⟩
  · right
    rw [lex, String.append_assoc, String.toList_append]
    exact ⟨_, rfl⟩

/-- Between its fences, a script has lines that are blank or begin with a word, so that none of
them is a fence and none opens an element. -/
theorem lex_of_mem_script {line : String}
    (member : line ∈ stylesheetImport :: (mounts.map Mount.importLine ++ constants title description)) :
    line = "" ∨ ∃ word tail, lex line = .word word :: tail := by
  rcases List.mem_cons.mp member with rfl | member
  · exact .inr ⟨_, _, rfl⟩
  rcases List.mem_append.mp member with imported | constant
  · obtain ⟨mount, -, rfl⟩ := List.mem_map.mp imported
    exact .inr ⟨_, _, lex_importLine _ _ _⟩
  · exact (lex_of_mem_constants constant).imp_right fun ⟨tail, tokens⟩ => ⟨_, tail, tokens⟩

theorem ne_fence_of_mem_script {line : String}
    (member : line ∈ stylesheetImport :: (mounts.map Mount.importLine ++ constants title description)) :
    line ≠ fence := by
  rcases lex_of_mem_script member with rfl | ⟨word, tail, tokens⟩
  · decide
  · rintro rfl
    have marks : lex fence = [.mark '-', .mark '-', .mark '-'] := rfl
    exact nomatch tokens.symm.trans marks

private theorem openedTag?_of_mem_scriptLines {line : String} (member : line ∈ scriptLines mounts title description) :
    openedTag? line = none := by
  have fenceLine : openedTag? fence = none := rfl
  rw [scriptLines_eq, List.mem_append, List.mem_cons, List.mem_singleton] at member
  rcases member with (rfl | inner) | rfl
  · exact fenceLine
  · rcases lex_of_mem_script inner with rfl | ⟨word, tail, tokens⟩
    · rfl
    · simp [openedTag?, tokens]
  · exact fenceLine

private theorem statements_constants (title description : String) : statements (constants title description) = [] := by
  refine List.filterMap_eq_nil_iff.mpr fun line member => ?_
  rcases lex_of_mem_constants member with rfl | ⟨tail, tokens⟩
  · rfl
  · rw [tokens]
    rfl

theorem ofTokens?_mount {mount : Mount} (plain : IsPlain mount.name) :
    Statement.ofTokens? (lex mount.importLine) = some (.importNamed [mount.symbol] mount.modulePath) :=
  ofTokens?_importLine (List.cons_ne_nil _ _) (List.forall_mem_singleton.mpr (isPlain_symbol plain))
    (isSource_modulePath plain) ";"

private theorem statements_imports (named : ∀ mount ∈ mounts, IsPlain mount.name) :
    statements (mounts.map Mount.importLine) = mounts.map fun mount => .importNamed [mount.symbol] mount.modulePath := by
  rw [statements, List.filterMap_map, ← List.filterMap_eq_map]
  exact List.filterMap_congr fun mount listed => ofTokens?_mount (named mount listed)

/-- What the script of a page imports: the stylesheet and every component that it mounts. -/
theorem scriptStatements_text (root : Node) (name : String) (named : ∀ mount ∈ mounts, IsPlain mount.name)
    (title description : String) :
    scriptStatements (text root name mounts title description) =
      .importOnly "../styles/global.css" :: mounts.map fun mount => .importNamed [mount.symbol] mount.modulePath := by
  have stylesheet : Statement.ofTokens? (lex stylesheetImport) = some (.importOnly "../styles/global.css") := rfl
  have components := statements_imports named
  have rest := statements_constants (if title.isEmpty then name else title) description
  have whole : ∀ mount ∈ mounts, '\n' ∉ mount.name.toList := fun mount listed => (named mount listed).not_mem (by decide)
  rw [scriptStatements, linesOf_text root name whole, scriptLines_eq,
    fenced_scriptLines _ _ fun _ => ne_fence_of_mem_script]
  rw [statements] at components rest ⊢
  rw [List.filterMap_cons, stylesheet, List.filterMap_append, components, rest, List.append_nil]

private theorem lex_bodyLine (root : Node) : ∃ tail, lex (bodyLine root) = .mark '<' :: .word "body" :: tail := by
  rw [lex, bodyLine, indented, String.toList_append, String.toList_append, String.toList_append, List.append_assoc]
  exact ⟨_, rfl⟩

private theorem lex_containerLine (root : Node) :
    ∃ tail, lex (indented 3 (containerLine root)) = .mark '<' :: .word "div" :: tail := by
  rw [lex, containerLine, indented, String.toList_append, String.toList_append, String.toList_append, List.append_assoc]
  exact ⟨_, rfl⟩

/-- The lines of the body of a page that mounts something. -/
def mountedLines (root : Node) (mounts : List Mount) : List String :=
  mainLine :: indented 3 (containerLine root) ::
    (mounts.map (fun mount => indented 4 mount.element) ++ [indented 3 "</div>", indented 2 "</main>"])

private theorem closedTag?_of_mem_mountedLines (root : Node) (named : ∀ mount ∈ mounts, IsPlain mount.name) :
    ∀ line ∈ mountedLines root mounts, closedTag? line ≠ some "body" := by
  obtain ⟨_, container⟩ := lex_containerLine root
  refine List.forall_mem_cons.mpr ⟨by decide, List.forall_mem_cons.mpr ⟨by simp [closedTag?, container], ?_⟩⟩
  refine List.forall_mem_append.mpr ⟨fun line member => ?_, by decide +kernel⟩
  obtain ⟨mount, listed, rfl⟩ := List.mem_map.mp member
  obtain ⟨_, tokens⟩ := lex_element (named mount listed)
  simp [closedTag?, tokens]

theorem innerLines_text (root : Node) (name : String) (nonempty : mounts ≠ [])
    (named : ∀ mount ∈ mounts, IsPlain mount.name) (title description : String) :
    innerLines "body" (linesOf (text root name mounts title description)) = mountedLines root mounts := by
  have shown : content root mounts = mountedContent root mounts := by
    rw [content, if_neg (by simpa using nonempty)]
  let known := if title.isEmpty then name else title
  have unopened : ∀ line ∈ scriptLines mounts known description ++ beforeBody, openedTag? line ≠ some "body" := by
    refine List.forall_mem_append.mpr ⟨fun line member => ?_, by decide +kernel⟩
    rw [openedTag?_of_mem_scriptLines member]
    exact nofun
  have opened : openedTag? (bodyLine root) = some "body" := by
    obtain ⟨_, tokens⟩ := lex_bodyLine root
    rw [openedTag?, tokens]
    rfl
  have closed : closedTag? (indented 1 "</body>") = some "body" := rfl
  have cut := innerLines_eq ["</html>", ""] unopened opened (closedTag?_of_mem_mountedLines root named) closed
  have whole : ∀ mount ∈ mounts, '\n' ∉ mount.name.toList := fun mount listed => (named mount listed).not_mem (by decide)
  rw [linesOf_text root name whole, shown, linesOf_mountedContent root named]
  simpa [mountedLines, known] using cut

theorem closesItself_containerLine (root : Node) : closesItself (indented 3 (containerLine root)) = false := by
  simp [closesItself, indented, containerLine]

theorem mountLines_text (root : Node) (name : String) (nonempty : mounts ≠ [])
    (named : ∀ mount ∈ mounts, IsPlain mount.name) (title description : String) :
    mountLines (text root name mounts title description) = mounts.map fun mount => indented 4 mount.element := by
  have main : closesItself mainLine = false := rfl
  have ends : [indented 3 "</div>", indented 2 "</main>"].filter closesItself = [] := rfl
  have elements : ∀ line ∈ mounts.map fun mount => indented 4 mount.element, closesItself line = true :=
    List.forall_mem_map.mpr fun mount _ => closesItself_element mount
  rw [mountLines, innerLines_text root name nonempty named, mountedLines, List.filter_cons_of_neg (by simp [main]),
    List.filter_cons_of_neg (by simp [closesItself_containerLine]), List.filter_append, ends, List.append_nil,
    List.filter_eq_self.mpr elements]

/-- The body of a page mounts its components in their order and nothing else. -/
theorem mountedTags_text (root : Node) (name : String) (nonempty : mounts ≠ [])
    (named : ∀ mount ∈ mounts, IsPlain mount.name) (title description : String) :
    mountedTags (text root name mounts title description) = mounts.map Mount.symbol := by
  have container : mountedTag? (indented 3 (containerLine root)) = none := by
    simp [mountedTag?, closesItself_containerLine]
  have main : mountedTag? mainLine = none := rfl
  have ends : [indented 3 "</div>", indented 2 "</main>"].filterMap mountedTag? = [] := rfl
  rw [mountedTags, innerLines_text root name nonempty named, mountedLines, List.filterMap_cons, main,
    List.filterMap_cons, container, List.filterMap_append, ends, List.append_nil, List.filterMap_map,
    ← List.filterMap_eq_map]
  exact List.filterMap_congr fun mount listed => mountedTag?_element (named mount listed)

end Handoff.Page
