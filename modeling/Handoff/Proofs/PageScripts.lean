import Handoff.Proofs.PageReading
import Handoff.Proofs.PageSections
import Handoff.Proofs.ScriptLiterals

/-! The script of a page, whatever the page says about itself. Names, titles and descriptions
end no line of it and no literal, so the script ends at its own fence and its constants hold
the texts that the page was given. -/

namespace Handoff.Page
open Text Naming Script Json

/-- The text that is assigned by the rest of a line. -/
def assigned? : List Char → Option String
  | ' ' :: '=' :: ' ' :: '"' :: written =>
    match literal? '"' written with
    | some (value, .closed, [';']) => some value
    | _ => none
  | _ => none

/-- The name and the text of a line that declares a constant. -/
def constant? (line : String) : Option (String × String) :=
  match line.toList with
  | 'c' :: 'o' :: 'n' :: 's' :: 't' :: ' ' :: rest =>
    (assigned? (rest.dropWhile isWordPart)).map (String.ofList (rest.takeWhile isWordPart), ·)
  | _ => none

private theorem readLiteral_escapeChar (acc : List Piece) (c : Char) (rest : List Char) :
    readLiteral '"' acc (Text.escapeChar literalEscapes c ++ rest) = readLiteral '"' (.char c :: acc) rest := by
  by_cases listed : c ∈ ['\\', '"', '\n', '\r', '\t', '\u2028', '\u2029']
  · have escaped : ∀ (written : List Char) {d : Char}, readEscape (written ++ rest) = some ([.char d], rest) →
        readLiteral '"' acc ('\\' :: (written ++ rest)) = readLiteral '"' (.char d :: acc) rest :=
      fun _ _ read => readLiteral_escape (by decide) read
    simp only [List.mem_cons, List.not_mem_nil, or_false] at listed
    rcases listed with rfl | rfl | rfl | rfl | rfl | rfl | rfl
    · exact escaped ['\\'] rfl
    · exact escaped ['"'] rfl
    · exact escaped ['n'] rfl
    · exact escaped ['r'] rfl
    · exact escaped ['t'] rfl
    · exact escaped "u2028".toList rfl
    · exact escaped "u2029".toList rfl
  · simp only [List.mem_cons, List.not_mem_nil, or_false, not_or] at listed
    have kept : Text.escapeChar literalEscapes c = [c] := by
      have absent : literalEscapes.find? (·.1 = c) = none := by
        simp [literalEscapes, Ne.symm, listed]
      rw [Text.escapeChar, absent]
    rw [kept]
    exact readLiteral_line (by decide) (by simp [listed])

private theorem readLiteral_escape_text (s : List Char) (acc : List Piece) (rest : List Char) :
    readLiteral '"' acc (s.flatMap (Text.escapeChar literalEscapes) ++ '"' :: rest) =
      some (acc.reverse ++ s.map .char, .closed, rest) := by
  induction s generalizing acc with
  | nil => exact (readLiteral_quote _ acc rest).trans (by simp)
  | cons c s ih =>
    rw [List.flatMap_cons, List.append_assoc, readLiteral_escapeChar, ih]
    simp

private theorem literal?_escape (s : String) (rest : List Char) :
    literal? '"' ((Text.escape literalEscapes s).toList ++ '"' :: rest) = some (s, .closed, rest) := by
  have read := readLiteral_escape_text s.toList [] rest
  rw [Text.escape, String.toList_ofList, literal?_of_readLiteral read, String.ofList_toList]

private theorem assigned?_literal (value : String) :
    assigned? (' ' :: '=' :: ' ' :: (literal value ++ ";").toList) = some value := by
  have spelled : (literal value ++ ";").toList = '"' :: ((Text.escape literalEscapes value).toList ++ '"' :: [';']) := by
    simp [literal]
  rw [spelled, assigned?, literal?_escape]
  rfl

private theorem constant?_declaration {line : String} (name : List Char) (parts : ∀ c ∈ name, isWordPart c = true)
    (value : String)
    (spelled : line.toList = 'c' :: 'o' :: 'n' :: 's' :: 't' :: ' ' :: (name ++ ' ' :: '=' :: ' ' :: (literal value ++ ";").toList)) :
    constant? line = some (String.ofList name, value) := by
  have blank : isWordPart ' ' = false := by decide
  have read : ∀ rest, line.toList = 'c' :: 'o' :: 'n' :: 's' :: 't' :: ' ' :: rest →
      constant? line = (assigned? (rest.dropWhile isWordPart)).map (String.ofList (rest.takeWhile isWordPart), ·) := by
    intro rest same
    rw [constant?, same]
    rfl
  rw [read _ spelled, List.dropWhile_append_of_pos parts, List.takeWhile_append_of_pos parts, List.dropWhile_cons_of_neg (by simp [blank]),
    List.takeWhile_cons_of_neg (by simp [blank]), assigned?_literal, List.append_nil]
  rfl

/-- Whatever a page is called and says about itself, its script is between its first line and the
next fence. It imports the stylesheet and every component, and its constants are the title and the
description as they were given. -/
theorem script_read_back (root : Node) (name title description : String) (mounts : List Mount)
    (letters : ∀ mount ∈ mounts, ∀ c ∈ mount.name.toList, isAlphanumeric c = true) :
    ∃ titleLine descriptionLine body,
      linesOf (text root name mounts title description) =
        fence :: (stylesheetImport :: (mounts.map Mount.importLine ++ ["", titleLine, descriptionLine])) ++ fence :: body ∧
      (∀ line ∈ stylesheetImport :: (mounts.map Mount.importLine ++ ["", titleLine, descriptionLine]), line ≠ fence) ∧
      (∀ mount ∈ mounts, mount.name ≠ "" →
        Statement.ofTokens? (lex mount.importLine) = some (.importNamed [mount.symbol] mount.modulePath)) ∧
      constant? titleLine = some ("title", if title.isEmpty then name else title) ∧
      constant? descriptionLine = some ("description", description) := by
  let known := if title.isEmpty then name else title
  have parts : ∀ mount ∈ mounts, ∀ c ∈ mount.name.toList, isNamePart c = true :=
    fun mount listed c member => isNamePart_of_isAlphanumeric (letters mount listed c member)
  have whole : ∀ mount ∈ mounts, '\n' ∉ mount.name.toList :=
    fun mount listed member => ne_of_isNamePart (parts mount listed _ member) (by decide) rfl
  have lines := linesOf_text root name whole title description
  rw [scriptLines_eq, constants] at lines
  refine ⟨_, _, _, lines.trans (List.append_assoc _ _ _), fun line member => ne_fence_of_mem_script member, ?_, ?_, ?_⟩
  · intro mount listed nonempty
    exact ofTokens?_mount ⟨nonempty, parts mount listed⟩
  · exact constant?_declaration "title".toList (by decide) known (by simp [known])
  · exact constant?_declaration "description".toList (by decide) description (by simp)

theorem script_read_back_sample :
    let mounts : List Mount := [⟨"Überblick", .react, .eager⟩, ⟨"Kontakt2", .angular, .none⟩]
    let title := "\";\n---\u2028\\"
    (∀ mount ∈ mounts, ∀ c ∈ mount.name.toList, isAlphanumeric c = true) ∧ ∃ titleLine descriptionLine body,
      linesOf (text (Site.pageOf []) "index" mounts title "") =
        fence :: (stylesheetImport :: (mounts.map Mount.importLine ++ ["", titleLine, descriptionLine])) ++ fence :: body ∧
      (∀ line ∈ stylesheetImport :: (mounts.map Mount.importLine ++ ["", titleLine, descriptionLine]), line ≠ fence) ∧
      (∀ mount ∈ mounts, mount.name ≠ "" →
        Statement.ofTokens? (lex mount.importLine) = some (.importNamed [mount.symbol] mount.modulePath)) ∧
      constant? titleLine = some ("title", if title.isEmpty then "index" else title) ∧
      constant? descriptionLine = some ("description", "") := by
  intro mounts title
  have letters : ∀ mount ∈ mounts, ∀ c ∈ mount.name.toList, isAlphanumeric c = true := by decide +kernel
  exact ⟨letters, script_read_back (Site.pageOf []) "index" title "" mounts letters⟩

end Handoff.Page
