import Handoff.Component.Targets
import Handoff.Page.Static
import Handoff.Proofs.MarkupReader
import Handoff.Proofs.SourceLines
import Handoff.Proofs.TreePlaces

/-! The lines of printed markup. An element that has elements inside starts and ends on lines of
its own, as deep as it is nested, and all else takes one line. So markup that is printed at another
level is the same text with all lines moved. -/

namespace Handoff

namespace Text

private theorem join_cons (separator : Char) (first : List Char) (lines : List (List Char)) :
    join separator (first :: lines) = first ++ lines.flatMap (separator :: ·) := by
  induction lines generalizing first with
  | nil => exact (List.append_nil first).symm
  | cons next lines ih =>
    rw [join, ih, List.flatMap_cons, List.cons_append]
    exact List.cons_ne_nil _ _

private theorem split_join {separator : Char} {lines : List (List Char)} (filled : lines ≠ [])
    (whole : ∀ line ∈ lines, separator ∉ line) : split separator (join separator lines) = lines := by
  induction lines with
  | nil => exact absurd rfl filled
  | cons first lines ih =>
    obtain ⟨here, later⟩ := List.forall_mem_cons.mp whole
    cases lines with
    | nil => exact split_of_not_mem here
    | cons next lines =>
      rw [join, split_append, split_of_not_mem here, ih (List.cons_ne_nil _ _) later]
      · rfl
      · exact List.cons_ne_nil _ _

/-- A text with spaces put before every line. -/
def shift (count : Nat) (text : String) : String :=
  String.ofList (join '\n' ((split '\n' text.toList).map (List.replicate count ' ' ++ ·)))

/-- How many spaces a line begins with. -/
def indentOf (line : String) : Nat := (line.toList.takeWhile (· = ' ')).length

/-- No character but the line end itself is written with one. -/
def KeepsLines (table : EscapeTable) : Prop := ∀ c, c ≠ '\n' → '\n' ∉ escapeChar table c

theorem keepsLines_of_entities {table : EscapeTable} (entities : ∀ entry ∈ table, '\n' ∉ entry.2.toList) : KeepsLines table := by
  intro c other
  rw [escapeChar]
  split
  next found => exact entities _ (List.mem_of_find?_eq_some found)
  next => exact fun inside => other (List.mem_singleton.mp inside).symm

theorem KeepsLines.newline_not_mem_escape {table : EscapeTable} (keeps : KeepsLines table) {s : String} (oneLine : '\n' ∉ s.toList) :
    '\n' ∉ (escape table s).toList := by
  rw [escape, String.toList_ofList, List.mem_flatMap]
  rintro ⟨c, listed, inside⟩
  refine keeps c ?_ inside
  rintro rfl
  exact oneLine listed

end Text

/-- No name and no value has a line end. -/
def Attribute.IsOneLine : Attribute → Prop
  | .flag name => '\n' ∉ name.toList
  | .value name written => '\n' ∉ name.toList ∧ '\n' ∉ written.toList

namespace Markup
open Text (join join_cons split shift indentOf linesOf)

variable {style : Style} {markup : Markup}

/-! Places in markup -/

def children : Markup → List Markup
  | .text _ => []
  | .element _ _ children => children

def at? : Markup → Place → Option Markup
  | markup, [] => some markup
  | markup, i :: place => markup.children[i]?.bind (at? · place)

/-- What a line of printed markup holds: the start or the end of an element around others, or a text
or any other element as a whole. -/
inductive Line where
  | opening (tag : String) (attributes : List Attribute)
  | closing (tag : String)
  | whole (markup : Markup)

mutual

/-- The lines of markup, with the places of what they are about. -/
def outline : Markup → List (Place × Line)
  | .text s => [([], .whole (.text s))]
  | .element tag attributes children =>
    if children.any isElement then ([], .opening tag attributes) :: (outlineAll 0 children ++ [([], .closing tag)])
    else [([], .whole (.element tag attributes children))]

/-- The lines of children from a number on. -/
def outlineAll (i : Nat) : List Markup → List (Place × Line)
  | [] => []
  | child :: rest => (outline child).map (fun (place, line) => (i :: place, line)) ++ outlineAll (i + 1) rest

end

/-- What is written of markup that has no element inside. -/
def writtenWhole (style : Style) : Markup → List Char
  | .text s => (Text.escape style.textEntities s).toList
  | .element tag attributes [] =>
    (openTag tag attributes).toList ++ if style.selfClosing.allows tag then " />".toList else '>' :: (closeTag tag).toList
  | .element tag attributes children =>
    (openTag tag attributes).toList ++ '>' :: ((texts? children).getD []).flatMap (fun s => (Text.escape style.textEntities s).toList) ++
      (closeTag tag).toList

def Line.written (style : Style) : Line → List Char
  | .opening tag attributes => (openTag tag attributes).toList ++ ['>']
  | .closing tag => (closeTag tag).toList
  | .whole markup => writtenWhole style markup

/-- A line with the indentation of its place, where the outermost element has some already. -/
def lineAt (style : Style) (level : Nat) (line : Place × Line) : List Char :=
  blanks (level + line.1.length) ++ line.2.written style

theorem texts?_cons_text (s : String) (rest : List Markup) : texts? (.text s :: rest) = (texts? rest).map (s :: ·) := by
  simp only [texts?, List.mapM_cons, Option.bind_eq_bind, Option.bind_some, Option.pure_def, Option.map_eq_bind]
  rfl

theorem texts?_cons_element (tag : String) (attributes : List Attribute) (children rest : List Markup) :
    texts? (.element tag attributes children :: rest) = none := by
  rw [texts?, List.mapM_cons]
  rfl

theorem texts?_eq_none_iff {children : List Markup} : texts? children = none ↔ children.any isElement = true := by
  induction children with
  | nil => simp [texts?]
  | cons child rest ih =>
    cases child with
    | text s =>
      rw [texts?_cons_text, Option.map_eq_none_iff, ih, List.any_cons]
      exact Iff.rfl
    | element tag attributes children => exact iff_of_true (texts?_cons_element tag attributes children rest) rfl

private theorem spelled_whole (level : Nat) (tag : String) (attributes : List Attribute) {children : List Markup}
    (flat : ¬children.any isElement = true) :
    spelled style level (.element tag attributes children) = blanks level ++ writtenWhole style (.element tag attributes children) := by
  cases children with
  | nil => simp only [spelled, writtenWhole, List.append_assoc]
  | cons child rest =>
    cases found : texts? (child :: rest) with
    | none => exact absurd (texts?_eq_none_iff.mp found) flat
    | some texts => simp [spelled, writtenWhole, found]

private theorem lineAt_under (level i : Nat) (lines : List (Place × Line)) :
    (lines.map fun (place, line) => (i :: place, line)).flatMap ('\n' :: lineAt style level ·) = lines.flatMap ('\n' :: lineAt style (level + 1) ·) := by
  rw [List.flatMap_map]
  congr 1
  funext line
  rw [lineAt, lineAt, List.length_cons, Nat.add_assoc, Nat.add_comm 1]

mutual

/-- Each line is written after the end of the one before. -/
theorem newline_spelled (level : Nat) (markup : Markup) :
    '\n' :: spelled style level markup = (outline markup).flatMap ('\n' :: lineAt style level ·) := by
  cases markup with
  | text s => simp [spelled, outline, lineAt, Line.written, writtenWhole]
  | element tag attributes children =>
    rw [outline]
    split
    next nested =>
      have inner := newline_spelledAll level 0 children
      have nothing := texts?_eq_none_iff.mpr nested
      cases children with
      | nil => cases nested
      | cons child rest => simp [spelled, nothing, inner, lineAt, Line.written, List.flatMap_append]
    next flat => simp [spelled_whole level tag attributes flat, lineAt, Line.written]

private theorem newline_spelledAll (level i : Nat) (children : List Markup) :
    spelledAll style (level + 1) children = (outlineAll i children).flatMap ('\n' :: lineAt style level ·) := by
  cases children with
  | nil => rfl
  | cons child rest =>
    rw [spelledAll, outlineAll, List.flatMap_append, lineAt_under, ← newline_spelled (level + 1) child, newline_spelledAll level (i + 1) rest]

end

private theorem spelled_eq (level : Nat) (markup : Markup) :
    spelled style level markup = join '\n' ((outline markup).map (lineAt style level)) := by
  have lines : '\n' :: spelled style level markup = (outline markup).flatMap ('\n' :: lineAt style level ·) := newline_spelled level markup
  cases all : outline markup with
  | nil =>
    rw [all] at lines
    cases lines
  | cons first rest =>
    rw [all, List.flatMap_cons] at lines
    rw [List.map_cons, join_cons, List.flatMap_map]
    exact (List.cons.inj lines).2

/-! Lines without line ends in them -/

private theorem newline_not_mem_blanks (level : Nat) : '\n' ∉ blanks level := by
  intro inside
  exact absurd (List.eq_of_mem_replicate inside) (by decide)

mutual

/-- Nothing that markup is made of has a line end. -/
def IsOneLine : Markup → Prop
  | .text s => '\n' ∉ s.toList
  | .element tag attributes children => '\n' ∉ tag.toList ∧ (∀ entry ∈ attributes, entry.IsOneLine) ∧ AllOneLine children

def AllOneLine : List Markup → Prop
  | [] => True
  | child :: rest => IsOneLine child ∧ AllOneLine rest

end

/-- Text in a style goes on a line if it did before. -/
def Style.KeepsLines (style : Style) : Prop := Text.KeepsLines style.textEntities

private theorem newline_not_mem_writeAttribute {entry : Attribute} (oneLine : entry.IsOneLine) :
    '\n' ∉ (writeAttribute entry).toList := by
  cases entry with
  | flag name => simpa [writeAttribute, Attribute.IsOneLine] using oneLine
  | value name value =>
    have entities : Text.KeepsLines attributeEntities := Text.keepsLines_of_entities (by decide)
    simpa [writeAttribute] using ⟨oneLine.1, entities.newline_not_mem_escape oneLine.2⟩

theorem newline_not_mem_openTag {tag : String} {attributes : List Attribute} (oneLine : '\n' ∉ tag.toList)
    (all : ∀ entry ∈ attributes, entry.IsOneLine) : '\n' ∉ (openTag tag attributes).toList := by
  have written : ∀ entry ∈ attributes, '\n' ∉ (writeAttribute entry).toList :=
    fun entry listed => newline_not_mem_writeAttribute (all entry listed)
  simpa [openTag, String.toList_join] using ⟨oneLine, written⟩

theorem newline_not_mem_closeTag {tag : String} (oneLine : '\n' ∉ tag.toList) : '\n' ∉ (closeTag tag).toList := by
  simpa [closeTag] using oneLine

private theorem newline_not_mem_texts {children : List Markup} (oneLine : AllOneLine children) {texts : List String}
    (found : texts? children = some texts) : ∀ s ∈ texts, '\n' ∉ s.toList := by
  induction children generalizing texts with
  | nil =>
    cases found
    exact List.forall_mem_nil _
  | cons child rest ih =>
    cases child with
    | text s =>
      rw [texts?_cons_text] at found
      obtain ⟨later, more, rfl⟩ := Option.map_eq_some_iff.mp found
      exact List.forall_mem_cons.mpr ⟨oneLine.1, ih oneLine.2 more⟩
    | element tag attributes children => cases texts?_cons_element tag attributes children rest ▸ found

private theorem newline_not_mem_writtenWhole (keeps : style.KeepsLines) (oneLine : IsOneLine markup) :
    '\n' ∉ writtenWhole style markup := by
  cases markup with
  | text s => exact keeps.newline_not_mem_escape oneLine
  | element tag attributes children =>
    obtain ⟨named, plain, inner⟩ := oneLine
    have opens := newline_not_mem_openTag named plain
    have closes := newline_not_mem_closeTag named
    cases children with
    | nil =>
      rw [writtenWhole]
      split
      · simpa using opens
      · simpa using ⟨opens, closes⟩
    | cons child rest =>
      have texts : ∀ s ∈ (texts? (child :: rest)).getD [], '\n' ∉ (Text.escape style.textEntities s).toList := by
        intro s listed
        cases found : texts? (child :: rest) with
        | none =>
          rw [found] at listed
          cases listed
        | some texts =>
          rw [found] at listed
          exact keeps.newline_not_mem_escape (newline_not_mem_texts inner found s listed)
      simpa [writtenWhole] using ⟨opens, texts, closes⟩

mutual

theorem newline_not_mem_outline (keeps : style.KeepsLines) (markup : Markup) (oneLine : IsOneLine markup) :
    ∀ line ∈ outline markup, '\n' ∉ line.2.written style := by
  cases markup with
  | text s => exact List.forall_mem_singleton.mpr (newline_not_mem_writtenWhole keeps oneLine)
  | element tag attributes children =>
    rw [outline]
    split
    · obtain ⟨named, plain, inner⟩ := oneLine
      refine List.forall_mem_cons.mpr ⟨?_, List.forall_mem_append.mpr ⟨newline_not_mem_outlineAll keeps 0 children inner, ?_⟩⟩
      · simpa [Line.written] using newline_not_mem_openTag named plain
      · exact List.forall_mem_singleton.mpr (newline_not_mem_closeTag named)
    · exact List.forall_mem_singleton.mpr (newline_not_mem_writtenWhole keeps oneLine)

private theorem newline_not_mem_outlineAll (keeps : style.KeepsLines) (i : Nat) (children : List Markup)
    (oneLine : AllOneLine children) : ∀ line ∈ outlineAll i children, '\n' ∉ line.2.written style := by
  cases children with
  | nil => exact List.forall_mem_nil _
  | cons child rest =>
    rw [outlineAll]
    refine List.forall_mem_append.mpr ⟨?_, newline_not_mem_outlineAll keeps (i + 1) rest oneLine.2⟩
    exact List.forall_mem_map.mpr (newline_not_mem_outline keeps child oneLine.1)

end

/-! Elements around others -/

/-- A line is the start or the end of an element with elements inside. -/
def Line.Bounds : Line → Markup → Prop
  | .opening tag attributes, .element name given children => name = tag ∧ given = attributes ∧ children.any isElement = true
  | .closing tag, .element name _ children => name = tag ∧ children.any isElement = true
  | _, _ => False

theorem mem_outlineAll {children : List Markup} {i : Nat} {place : Place} {line : Line} :
    (place, line) ∈ outlineAll i children ↔
      ∃ j inner child, place = (i + j) :: inner ∧ children[j]? = some child ∧ (inner, line) ∈ outline child := by
  induction children generalizing i with
  | nil => simp [outlineAll]
  | cons child rest ih =>
    rw [outlineAll, List.mem_append, List.mem_map, ih]
    constructor
    · rintro (⟨⟨inner, other⟩, listed, same⟩ | ⟨j, inner, later, rfl, found, listed⟩)
      · cases same
        exact ⟨0, inner, child, rfl, rfl, listed⟩
      · exact ⟨j + 1, inner, later, by rw [Nat.add_assoc, Nat.add_comm 1], found, listed⟩
    · rintro ⟨j, inner, later, rfl, found, listed⟩
      cases j with
      | zero =>
        cases found
        exact .inl ⟨(inner, line), listed, rfl⟩
      | succ j => exact .inr ⟨j, inner, later, by rw [Nat.add_assoc, Nat.add_comm 1], found, listed⟩

private theorem cons_mem_outlineAll {children : List Markup} {i : Nat} {place : Place} {line : Line} :
    (i :: place, line) ∈ outlineAll 0 children ↔ ∃ child, children[i]? = some child ∧ (place, line) ∈ outline child := by
  rw [mem_outlineAll]
  constructor
  · rintro ⟨j, inner, child, same, found, listed⟩
    cases same
    rw [Nat.zero_add]
    exact ⟨child, found, listed⟩
  · rintro ⟨child, found, listed⟩
    exact ⟨i, place, child, by rw [Nat.zero_add], found, listed⟩

/-- Where elements stand around others, and nowhere else, lines start and end them. -/
theorem bounds_iff {place : Place} {line : Line} :
    (∃ inner, markup.at? place = some inner ∧ line.Bounds inner) ↔
      (place, line) ∈ outline markup ∧ ∀ inner, line ≠ .whole inner := by
  induction place generalizing markup with
  | nil =>
    have here : (∃ inner, markup.at? [] = some inner ∧ line.Bounds inner) ↔ line.Bounds markup := by simp [at?]
    rw [here]
    cases markup with
    | text s => cases line <;> simp [Line.Bounds, outline]
    | element tag attributes children =>
      have deeper : ([], line) ∉ outlineAll 0 children := by simp [mem_outlineAll]
      rw [outline]
      split
      next nested => cases line <;> simp [Line.Bounds, nested, deeper, eq_comm]
      next flat => cases line <;> simp [Line.Bounds, flat]
  | cons i place ih =>
    have step : (∃ inner, markup.at? (i :: place) = some inner ∧ line.Bounds inner) ↔
        ∃ child, markup.children[i]? = some child ∧ (place, line) ∈ outline child ∧ ∀ inner, line ≠ .whole inner := by
      simp only [at?, Option.bind_eq_some_iff, ← ih]
      constructor
      · rintro ⟨inner, ⟨child, found, below⟩, bounds⟩
        exact ⟨child, found, inner, below, bounds⟩
      · rintro ⟨child, found, inner, below, bounds⟩
        exact ⟨inner, ⟨child, found, below⟩, bounds⟩
    rw [step]
    cases markup with
    | text s => simp [children, outline]
    | element tag attributes children =>
      rw [outline]
      split
      next nested =>
        have inside : (i :: place, line) ∈ ([], .opening tag attributes) :: (outlineAll 0 children ++ [([], .closing tag)]) ↔
            (i :: place, line) ∈ outlineAll 0 children := by simp
        rw [inside, cons_mem_outlineAll]
        constructor
        · rintro ⟨child, found, listed, ends⟩
          exact ⟨⟨child, found, listed⟩, ends⟩
        · rintro ⟨⟨child, found, listed⟩, ends⟩
          exact ⟨child, found, listed, ends⟩
      next flat =>
        -- only texts are inside, and each is a line as a whole
        refine iff_of_false ?_ (by simp)
        rintro ⟨child, found, listed, ends⟩
        cases child with
        | text s =>
          rw [outline, List.mem_singleton, Prod.mk.injEq] at listed
          exact ends _ listed.2
        | element => exact flat (List.any_eq_true.mpr ⟨_, List.mem_of_getElem? found, rfl⟩)

/-! Levels -/

/-- A style with another level for the outermost element. -/
def Style.startingAt (style : Style) (level : Nat) : Style := { style with baseLevel := level }

private theorem written_startingAt (level : Nat) (line : Line) : line.written (style.startingAt level) = line.written style := by
  cases line with
  | opening => rfl
  | closing => rfl
  | whole markup =>
    cases markup with
    | text => rfl
    | element tag attributes children => cases children <;> rfl

/-- What is printed at a level, line by line. -/
theorem print_startingAt (level : Nat) (tag : String) (attributes : List Attribute) (children : List Markup) :
    (style.startingAt level).print (.element tag attributes children) =
      String.ofList (join '\n' ((outline (.element tag attributes children)).map (lineAt style level))) := by
  have printed := toList_print (style.startingAt level) tag attributes children
  rw [spelled_eq] at printed
  have lines : lineAt (style.startingAt level) level = lineAt style level := by
    funext line
    rw [lineAt, lineAt, written_startingAt]
  change _ = join '\n' ((outline _).map (lineAt (style.startingAt level) level)) at printed
  rw [← String.ofList_toList (s := (style.startingAt level).print _), printed, lines]

private theorem lineAt_eq (level : Nat) (line : Place × Line) :
    lineAt style level line = List.replicate (2 * level) ' ' ++ lineAt style 0 line := by
  rw [lineAt, lineAt, blanks, blanks, Nat.mul_add, List.replicate_add, List.append_assoc, Nat.zero_add]

private theorem outline_ne_nil (markup : Markup) : outline markup ≠ [] := by
  cases markup with
  | text => exact List.cons_ne_nil _ _
  | element =>
    rw [outline]
    split <;> exact List.cons_ne_nil _ _

/-- What a line starts or ends begins with a bracket, so its indentation is all the spaces before it. -/
theorem indentOf_lineAt {place : Place} {line : Line} {inner : Markup} (bounds : line.Bounds inner) :
    indentOf (String.ofList (lineAt style 0 (place, line))) = 2 * place.length := by
  have bracket : ∃ rest, line.written style = '<' :: rest := by
    cases line with
    | opening tag attributes => exact ⟨_, by simp [Line.written, openTag]; rfl⟩
    | closing tag => exact ⟨_, by simp [Line.written, closeTag]; rfl⟩
    | whole => cases inner <;> cases bounds
  obtain ⟨rest, starts⟩ := bracket
  rw [indentOf, String.toList_ofList, lineAt, starts, blanks, Nat.zero_add,
    List.takeWhile_append_of_pos fun c inside => by simp [List.eq_of_mem_replicate inside]]
  simp

/-- Printing keeps to levels: it goes back to the one it started at, another level moves all lines,
and a line that starts or ends an element around others has two spaces for each element around that. -/
structure IsIndented (style : Style) (markup : Markup) : Prop where
  restored : ∀ b, (style.printInto b markup).level = b.level
  shifted : ∀ level, (style.startingAt level).print markup = shift (2 * level) ((style.startingAt 0).print markup)
  lines : linesOf ((style.startingAt 0).print markup) = (outline markup).map fun line => String.ofList (lineAt style 0 line)
  blocks : ∀ place line, (∃ inner, markup.at? place = some inner ∧ line.Bounds inner) ↔
    (place, line) ∈ outline markup ∧ ∀ inner, line ≠ .whole inner
  nested : ∀ place line inner, markup.at? place = some inner → line.Bounds inner →
    indentOf (String.ofList (lineAt style 0 (place, line))) = 2 * place.length

private theorem isIndented {tag : String} {attributes : List Attribute} {children : List Markup} (keeps : style.KeepsLines)
    (oneLine : IsOneLine (.element tag attributes children)) : IsIndented style (.element tag attributes children) := by
  have cut : split '\n' ((style.startingAt 0).print (.element tag attributes children)).toList =
      (outline (.element tag attributes children)).map (lineAt style 0) := by
    rw [print_startingAt, String.toList_ofList]
    refine Text.split_join (List.map_eq_nil_iff.not.mpr (outline_ne_nil _)) (List.forall_mem_map.mpr fun line listed => ?_)
    rw [lineAt, List.mem_append, not_or]
    exact ⟨newline_not_mem_blanks _, newline_not_mem_outline keeps _ oneLine line listed⟩
  refine ⟨fun b => level_printInto style b _, fun level => ?_, ?_, fun _ _ => bounds_iff, fun _ _ _ _ => indentOf_lineAt⟩
  · rw [shift, cut, print_startingAt, List.map_map]
    exact congrArg (fun lines => String.ofList (join '\n' lines)) (List.map_congr_left fun line _ => lineAt_eq level line)
  · rw [linesOf, Text.splitString, cut, List.map_map]
    rfl

/-- Every style that a target or a plain page has keeps lines, and with any such style the printed
text of an element is indented as it is nested. -/
theorem print_indented :
    ((∀ target : Target, target.renderer.style.KeepsLines) ∧ ∀ level, (Page.plainStyle level).KeepsLines) ∧
    ∀ (style : Style) (tag : String) (attributes : List Attribute) (children : List Markup), style.KeepsLines →
      IsOneLine (.element tag attributes children) → IsIndented style (.element tag attributes children) := by
  refine ⟨⟨?_, ?_⟩, fun style tag attributes children => isIndented⟩
  · intro target
    cases target <;> exact Text.keepsLines_of_entities (by decide)
  · intro level
    exact Text.keepsLines_of_entities (by decide : ∀ entry ∈ textEntities, '\n' ∉ entry.2.toList)

/-- A list inside of an element that has text as well, printed for Angular. -/
theorem print_indented_list :
    let style := Target.angular.renderer.style
    let children : List Markup := [.element "h1" [] [.text "Plans & prices"], .text "from", .element "ul" [.value "class" "flex"] [.element "li" [] []]]
    (style.KeepsLines ∧ IsOneLine (.element "div" [.flag "hidden"] children) ∧
      linesOf ((style.startingAt 0).print (.element "div" [.flag "hidden"] children)) =
        ["<div hidden>", "  <h1>Plans &amp; prices</h1>", "  from", "  <ul class=\"flex\">", "    <li></li>", "  </ul>", "</div>"]) ∧
    IsIndented style (.element "div" [.flag "hidden"] children) := by
  intro style children
  have keeps := print_indented.1.1 .angular
  have oneLine : IsOneLine (.element "div" [.flag "hidden"] children) := by
    simp [children, IsOneLine, AllOneLine, Attribute.IsOneLine]
  exact ⟨⟨keeps, oneLine, by decide⟩, print_indented.2 style "div" [.flag "hidden"] children keeps oneLine⟩

end Markup

end Handoff
