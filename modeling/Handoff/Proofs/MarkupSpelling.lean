import Handoff.Markup.Printer

/-! The printer as a function on characters. The builder only ever appends lines, so what
it adds for one element depends on the level alone. A line end belongs to the line that
follows it here: an element then starts and ends at its own tags. -/

namespace Handoff.Markup

def blanks (level : Nat) : List Char := List.replicate (2 * level) ' '

mutual

/-- What the printer writes for markup, without the line end after it. -/
def spelled (style : Style) (level : Nat) : Markup → List Char
  | .text s => blanks level ++ (Text.escape style.textEntities s).toList
  | .element tag attributes children =>
    let opening := (openTag tag attributes).toList
    blanks level ++ opening ++
      match children, texts? children with
      | [], _ => if style.selfClosing.allows tag then " />".toList else '>' :: (closeTag tag).toList
      | _, some texts =>
        '>' :: (texts.flatMap fun s => (Text.escape style.textEntities s).toList) ++ (closeTag tag).toList
      | _, none => '>' :: spelledAll style (level + 1) children ++ '\n' :: blanks level ++ (closeTag tag).toList

def spelledAll (style : Style) (level : Nat) : List Markup → List Char
  | [] => []
  | child :: rest => '\n' :: spelled style level child ++ spelledAll style level rest

end

end Handoff.Markup

namespace Handoff.CodeBuilder
open Markup

theorem toList_line (b : CodeBuilder) (s : String) :
    (b.line s).text.toList = b.text.toList ++ blanks b.level ++ s.toList ++ ['\n'] := by
  simp [line, indentation, blanks]

@[simp] theorem level_line (b : CodeBuilder) (s : String) : (b.line s).level = b.level := rfl

end Handoff.CodeBuilder

namespace Handoff.Markup
open CodeBuilder (toList_line)

mutual

theorem level_printInto (style : Style) (b : CodeBuilder) (markup : Markup) :
    (style.printInto b markup).level = b.level := by
  cases markup with
  | text s => rfl
  | element tag attributes children =>
    cases children with
    | nil => simp only [Style.printInto]; split <;> rfl
    | cons child rest =>
      cases found : texts? (child :: rest) with
      | some texts => simp only [Style.printInto, found]; rfl
      | none =>
        simp only [Style.printInto, found]
        have inner := level_printAllInto style (b.line (openTag tag attributes ++ ">")).indent (child :: rest)
        rw [CodeBuilder.level_line, CodeBuilder.dedent, inner]
        rfl

theorem level_printAllInto (style : Style) (b : CodeBuilder) (children : List Markup) :
    (style.printAllInto b children).level = b.level := by
  cases children with
  | nil => rfl
  | cons child rest =>
    rw [Style.printAllInto, level_printAllInto style _ rest, level_printInto style b child]

end

/-- The printer ends every child with a line end, where `spelledAll` starts it with one. -/
theorem spelledAll_append_newline (style : Style) (level : Nat) (children : List Markup) :
    '\n' :: children.flatMap (fun child => spelled style level child ++ ['\n']) =
      spelledAll style level children ++ ['\n'] := by
  induction children with
  | nil => rfl
  | cons child rest ih => simp [spelledAll, ← ih]

mutual

theorem toList_printInto (style : Style) (b : CodeBuilder) (markup : Markup) :
    (style.printInto b markup).text.toList = b.text.toList ++ spelled style b.level markup ++ ['\n'] := by
  cases markup with
  | text s => simp [Style.printInto, spelled, toList_line]
  | element tag attributes children =>
    cases children with
    | nil => simp only [Style.printInto, spelled]; split <;> simp [toList_line]
    | cons child rest =>
      cases found : texts? (child :: rest) with
      | some texts => simp [Style.printInto, spelled, found, toList_line, String.toList_join, List.flatMap_map]
      | none =>
        have inner := toList_printAllInto style (b.line (openTag tag attributes ++ ">")).indent (child :: rest)
        have level := level_printAllInto style (b.line (openTag tag attributes ++ ">")).indent (child :: rest)
        have lines := spelledAll_append_newline style (b.level + 1) (child :: rest)
        simp only [CodeBuilder.indent, CodeBuilder.level_line, toList_line, List.append_assoc] at inner level lines
        rw [List.singleton_append, lines] at inner
        simp [Style.printInto, spelled, found, toList_line, CodeBuilder.dedent, CodeBuilder.indent, inner, level]

private theorem toList_printAllInto (style : Style) (b : CodeBuilder) (children : List Markup) :
    (style.printAllInto b children).text.toList =
      b.text.toList ++ children.flatMap fun child => spelled style b.level child ++ ['\n'] := by
  cases children with
  | nil => simp [Style.printAllInto]
  | cons child rest =>
    rw [Style.printAllInto, toList_printAllInto style _ rest, toList_printInto style b child,
      level_printInto style b child]
    simp

end

/-- An element ends with a closing bracket, so trimming takes away the last line end and no more. -/
theorem toList_print (style : Style) (tag : String) (attributes : List Attribute) (children : List Markup) :
    (style.print (.element tag attributes children)).toList =
      spelled style style.baseLevel (.element tag attributes children) := by
  have ends : (spelled style style.baseLevel (.element tag attributes children)).getLast? = some '>' := by
    simp only [spelled, closeTag, String.toList_append]
    split
    · split <;> simp [List.getLast?_cons]
    · simp [List.getLast?_cons]
    · simp [List.getLast?_cons]
  obtain ⟨before, bracket⟩ := List.getLast?_eq_some_iff.mp ends
  have printed := toList_printInto style (.atLevel style.baseLevel) (.element tag attributes children)
  simp only [CodeBuilder.atLevel, bracket] at printed
  simp [Style.print, CodeBuilder.trimmed, CodeBuilder.atLevel, printed, bracket]

end Handoff.Markup
