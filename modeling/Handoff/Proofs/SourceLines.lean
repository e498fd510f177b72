import Handoff.Proofs.MarkupSpelling
import Handoff.Text.Parts

/-! The lines of built text. Cut at its line ends, a text gives back the lines that it was
built from, each with its indentation, and whatever lines were put in between as they are. -/

namespace Handoff

namespace Text

/-- The lines of a text; after a line end there is one more. -/
def linesOf (text : String) : List String := splitString '\n' text

variable {separator : Char}

theorem split_of_not_mem {part : List Char} (absent : separator ∉ part) : split separator part = [part] := by
  induction part with
  | nil => rfl
  | cons c part ih =>
    rw [List.mem_cons, not_or] at absent
    rw [split, if_neg (Ne.symm absent.1), ih absent.2]

theorem split_append (first rest : List Char) :
    split separator (first ++ separator :: rest) = split separator first ++ split separator rest := by
  induction first with
  | nil => simp [split]
  | cons c first ih =>
    rw [List.cons_append, split, split, ih]
    split
    · rfl
    · cases parts : split separator first with
      | nil => exact absurd parts (split_ne_nil separator first)
      | cons part parts => rfl

theorem not_mem_of_mem_split {text part : List Char} (member : part ∈ split separator text) : separator ∉ part := by
  induction text generalizing part with
  | nil => simp_all [split]
  | cons c text ih =>
    unfold split at member
    split at member
    · rcases List.mem_cons.mp member with rfl | later
      · exact List.not_mem_nil
      · exact ih later
    next other =>
      cases parts : split separator text with
      | nil => exact absurd parts (split_ne_nil separator text)
      | cons first others =>
        rw [parts] at ih member
        rcases List.mem_cons.mp member with rfl | later
        · rw [List.mem_cons, not_or]
          exact ⟨Ne.symm other, ih List.mem_cons_self⟩
        · exact ih (List.mem_cons_of_mem _ later)

/-- Parts that are all ended are cut off as they are. -/
theorem split_ended {parts : List (List Char)} (whole : ∀ part ∈ parts, separator ∉ part) (rest : List Char) :
    split separator ((parts.flatMap fun part => part ++ [separator]) ++ rest) = parts ++ split separator rest := by
  induction parts with
  | nil => rfl
  | cons part parts ih =>
    obtain ⟨first, more⟩ := List.forall_mem_cons.mp whole
    have spelled : ((part :: parts).flatMap fun part => part ++ [separator]) ++ rest =
        part ++ separator :: ((parts.flatMap fun part => part ++ [separator]) ++ rest) := by simp
    rw [spelled, split_append, split_of_not_mem first, ih more]
    rfl

def joinLines (lines : List String) : List Char := lines.flatMap fun line => line.toList ++ ['\n']

theorem joinLines_append (first rest : List String) : joinLines (first ++ rest) = joinLines first ++ joinLines rest :=
  List.flatMap_append

theorem joinLines_linesOf (text : String) : joinLines (linesOf text) = text.toList ++ ['\n'] := by
  have joined : ∀ parts : List (List Char), parts ≠ [] →
      joinLines (parts.map String.ofList) = join '\n' parts ++ ['\n'] := by
    intro parts
    induction parts with
    | nil => exact fun missing => absurd rfl missing
    | cons part parts ih =>
      intro _
      cases parts with
      | nil => simp [joinLines, join]
      | cons next parts =>
        have more := ih (List.cons_ne_nil _ _)
        simp only [joinLines, List.map_cons, List.flatMap_cons] at more ⊢
        rw [more]
        simp [join]
  rw [linesOf, splitString, joined _ (split_ne_nil _ _), join_split]

/-- Whole lines at the beginning of a text are cut off as they are. -/
theorem split_joinLines {lines : List String} (whole : ∀ line ∈ lines, '\n' ∉ line.toList) (rest : List Char) :
    split '\n' (joinLines lines ++ rest) = lines.map String.toList ++ split '\n' rest := by
  have spelled : joinLines lines = (lines.map String.toList).flatMap fun part => part ++ ['\n'] := by
    rw [joinLines, List.flatMap_map]
  rw [spelled, split_ended (List.forall_mem_map.mpr whole)]

theorem linesOf_of_prefix {text : String} {lines : List String} (whole : ∀ line ∈ lines, '\n' ∉ line.toList)
    (begins : joinLines lines <+: text.toList) : ∃ more, linesOf text = lines ++ more := by
  obtain ⟨rest, spelled⟩ := begins
  refine ⟨(split '\n' rest).map String.ofList, ?_⟩
  rw [linesOf, splitString, ← spelled, split_joinLines whole, List.map_append, List.map_map]
  simp [Function.comp_def]

end Text

namespace CodeBuilder
open Text

/-- A builder's text is made of lines that are all ended. -/
structure Holds (b : CodeBuilder) (lines : List String) : Prop where
  text : b.text.toList = joinLines lines
  whole : ∀ line ∈ lines, '\n' ∉ line.toList

theorem holds_atLevel (level : Nat) : Holds (.atLevel level) [] := ⟨rfl, by simp⟩

private theorem newline_not_mem_indentation (level : Nat) : '\n' ∉ (indentation level).toList := by
  rw [indentation, String.toList_ofList]
  intro member
  exact absurd (List.eq_of_mem_replicate member) (by decide)

/-- What a builder adds, as a whole line. -/
def indented (level : Nat) (s : String) : String := indentation level ++ s

@[simp]
theorem indented_zero : indented 0 = id := funext fun _ => String.empty_append

section Levels
variable (b : CodeBuilder) (s : String)

@[simp]
theorem level_atLevel (level : Nat) : (atLevel level).level = level := rfl

@[simp]
theorem level_blank : b.blank.level = b.level := rfl

@[simp]
theorem level_raw : (b.raw s).level = b.level := rfl

@[simp]
theorem level_indent : b.indent.level = b.level + 1 := rfl

@[simp]
theorem level_dedent : b.dedent.level = b.level - 1 := rfl

@[simp]
theorem level_lines (added : List String) : (b.lines added).level = b.level := by
  induction added generalizing b with
  | nil => rfl
  | cons s added ih => exact ih (b.line s)

end Levels

theorem text_line (b : CodeBuilder) (s : String) :
    (b.line s).text.toList = b.text.toList ++ joinLines [indented b.level s] := by
  simp [toList_line, joinLines, indented, indentation, Markup.blanks]

theorem text_lines (b : CodeBuilder) (added : List String) :
    (b.lines added).text.toList = b.text.toList ++ joinLines (added.map (indented b.level)) := by
  induction added generalizing b with
  | nil => simp [lines, joinLines]
  | cons s added ih =>
    have more := ih (b.line s)
    rw [lines] at more
    rw [lines, List.foldl_cons, more, text_line, List.append_assoc, ← joinLines_append]
    rfl

theorem text_blank (b : CodeBuilder) : b.blank.text.toList = b.text.toList ++ joinLines [""] := by
  simp [blank, joinLines]

theorem text_raw (b : CodeBuilder) (s : String) : (b.raw s).text.toList = b.text.toList ++ s.toList := String.toList_append

theorem text_indent (b : CodeBuilder) : b.indent.text = b.text := rfl

theorem text_dedent (b : CodeBuilder) : b.dedent.text = b.text := rfl

/-- A builder's text begins with a text, whatever comes after it. -/
def Begins (b : CodeBuilder) (head : List Char) : Prop := head <+: b.text.toList

namespace Begins

variable {b : CodeBuilder} {head : List Char} (begins : b.Begins head)
include begins

theorem line (s : String) : (b.line s).Begins head := by
  rw [Begins, text_line]
  exact begins.trans (List.prefix_append _ _)

theorem blank : b.blank.Begins head := by
  rw [Begins, text_blank]
  exact begins.trans (List.prefix_append _ _)

theorem raw (s : String) : (b.raw s).Begins head := by
  rw [Begins, text_raw]
  exact begins.trans (List.prefix_append _ _)

theorem indent : b.indent.Begins head := begins

theorem dedent : b.dedent.Begins head := begins

end Begins

namespace Holds

variable {b : CodeBuilder} {lines : List String} (holds : b.Holds lines)
include holds

theorem line (s : String) (whole : '\n' ∉ s.toList) : (b.line s).Holds (lines ++ [indented b.level s]) where
  text := by rw [text_line, holds.text, joinLines_append]
  whole := by
    refine List.forall_mem_append.mpr ⟨holds.whole, ?_⟩
    simpa [indented] using ⟨newline_not_mem_indentation b.level, whole⟩

theorem blank : b.blank.Holds (lines ++ [""]) where
  text := by rw [text_blank, holds.text, joinLines_append]
  whole := List.forall_mem_append.mpr ⟨holds.whole, by simp⟩

/-- Text that is put in as it is adds the lines that it has. -/
theorem raw (s : String) : ((b.raw s).raw "\n").Holds (lines ++ linesOf s) where
  text := by
    rw [joinLines_append, joinLines_linesOf]
    simp [CodeBuilder.raw, holds.text]
  whole := by
    refine List.forall_mem_append.mpr ⟨holds.whole, fun line member => ?_⟩
    obtain ⟨part, inside, rfl⟩ := List.mem_map.mp member
    rw [String.toList_ofList]
    exact not_mem_of_mem_split inside

theorem begins : b.Begins (joinLines lines) := holds.text ▸ List.prefix_rfl

theorem indent : b.indent.Holds lines := ⟨holds.text, holds.whole⟩

theorem dedent : b.dedent.Holds lines := ⟨holds.text, holds.whole⟩

theorem addLines (added : List String) (whole : ∀ s ∈ added, '\n' ∉ s.toList) :
    (b.lines added).Holds (lines ++ added.map (indented b.level)) := by
  induction added generalizing b lines with
  | nil => exact (List.append_nil lines).symm ▸ holds
  | cons s added ih =>
    have first := holds.line s (whole s List.mem_cons_self)
    have more := ih first fun other member => whole other (List.mem_cons_of_mem _ member)
    rw [List.append_assoc] at more
    exact more

theorem linesOf_text : linesOf b.text = lines ++ [""] := by
  have cut := split_joinLines holds.whole []
  rw [List.append_nil] at cut
  rw [linesOf, splitString, holds.text, cut]
  simp [Function.comp_def, split]

/-- Without the line end that closes it, a text has exactly the lines it was built from. -/
theorem linesOf_trimmed {last : String} (closed : lines.getLast? = some last) (nonempty : last ≠ "") :
    linesOf b.trimmed = lines := by
  obtain ⟨before, rfl⟩ := List.getLast?_eq_some_iff.mp closed
  obtain ⟨start, c, spelling⟩ := (List.eq_nil_or_concat last.toList).resolve_left (by simpa using nonempty)
  have visible : c ≠ '\n' := by
    rintro rfl
    exact holds.whole last (by simp) (by simp [spelling])
  have text : b.text.toList = joinLines before ++ last.toList ++ ['\n'] := by
    rw [holds.text, joinLines_append]
    simp [joinLines]
  have trimmed : b.trimmed.toList = joinLines before ++ last.toList := by
    rw [CodeBuilder.trimmed, String.toList_ofList, text, spelling]
    simp [visible]
  have cut : linesOf b.text = linesOf b.trimmed ++ [""] := by
    rw [linesOf, splitString, text, ← trimmed, split_append, List.map_append]
    rfl
  exact List.append_cancel_right (cut.symm.trans holds.linesOf_text)

end Holds

end CodeBuilder

end Handoff
