import Handoff.Component.Renderer
import Handoff.Proofs.MarkupReader
import Handoff.Proofs.NameCharacters
import Handoff.Proofs.SourceLines

/-! Reading the modules that are generated. A line is cut into words, quoted text and marks,
and those that begin outside all braces are read as imports and exports; braces inside the
attribute values of a template do not count. The reader knows what a module may say, not
how the targets write theirs. -/

namespace Handoff.Script
open Markup Naming Text

inductive Token where
  | word (text : String)
  | quoted (text : String)
  | mark (c : Char)
  deriving DecidableEq

/-- What a reader has begun, its characters in reverse. -/
inductive Pending where
  | nothing
  | word (chars : List Char)
  | quoted (chars : List Char)

def Pending.tokens : Pending → List Token
  | .word chars => [.word (String.ofList chars.reverse)]
  | .nothing | .quoted _ => []

def Pending.add (c : Char) : Pending → Pending
  | .nothing => .word [c]
  | .word chars => .word (c :: chars)
  | .quoted chars => .quoted (c :: chars)

def isWordPart (c : Char) : Bool := isNamePart c || c == '_' || c == '$'

/-- The tokens of a line; a quoted text that does not end is none. -/
def lexAfter : Pending → List Char → List Token
  | pending, [] => pending.tokens
  | .quoted chars, c :: rest =>
    if c = '\'' then .quoted (String.ofList chars.reverse) :: lexAfter .nothing rest
    else lexAfter (.quoted (c :: chars)) rest
  | pending, c :: rest =>
    if isWordPart c then lexAfter (pending.add c) rest
    else if c = '\'' then pending.tokens ++ lexAfter (.quoted []) rest
    else if isBlank c then pending.tokens ++ lexAfter .nothing rest
    else pending.tokens ++ .mark c :: lexAfter .nothing rest

def lex (line : String) : List Token := lexAfter .nothing line.toList

inductive Statement where
  | importOnly (source : String)
  | importDefault (name source : String)
  | importNamed (names : List String) (source : String)
  | exportDeclared (name : String)
  | exportList (names : List String)
  deriving DecidableEq

def Statement.bound : Statement → List String
  | .importDefault name _ => [name]
  | .importNamed names _ => names
  | .exportDeclared name => [name]
  | .importOnly _ | .exportList _ => []

def Statement.exported : Statement → List String
  | .exportDeclared name => [name]
  | .exportList names => names
  | .importOnly _ | .importDefault .. | .importNamed .. => []

/-- Names with commas between them, up to a closing brace. -/
def names? : List Token → Option (List String × List Token)
  | .word name :: .mark c :: rest =>
    if c = ',' then (names? rest).map fun (names, rest) => (name :: names, rest)
    else if c = '\x7d' then some ([name], rest)
    else none
  | _ => none

def source? : List Token → Option String
  | .word "from" :: .quoted source :: _ => some source
  | _ => none

def import? : List Token → Option Statement
  | .quoted source :: _ => some (.importOnly source)
  | .word name :: rest => (source? rest).map (.importDefault name)
  | .mark '\x7b' :: rest => (names? rest).bind fun (names, rest) => (source? rest).map (.importNamed names)
  | _ => none

def declarations : List String := ["class", "const", "enum", "function", "interface", "let", "type", "var"]

def export? : List Token → Option Statement
  | .word kind :: .word name :: _ => if kind ∈ declarations then some (.exportDeclared name) else none
  | .mark '\x7b' :: rest => (names? rest).map fun (names, _) => .exportList names
  | _ => none

def Statement.ofTokens? : List Token → Option Statement
  | .word "import" :: rest => import? rest
  | .word "export" :: rest => export? rest
  | _ => none

def statements (lines : List String) : List Statement := lines.filterMap fun line => Statement.ofTokens? (lex line)

def openedTag? (line : String) : Option String :=
  match lex line with
  | .mark '<' :: .word tag :: _ => some tag
  | _ => none

def closedTag? (line : String) : Option String :=
  match lex line with
  | .mark '<' :: .mark '/' :: .word tag :: _ => some tag
  | _ => none

/-- The lines inside the first element that has a tag. -/
def innerLines (tag : String) (lines : List String) : List String :=
  ((lines.dropWhile (openedTag? · ≠ some tag)).drop 1).takeWhile (closedTag? · ≠ some tag)

structure Nesting where
  zone : Zone
  depth : Nat
  deriving DecidableEq

namespace Nesting

/-- Outside tags, with so many braces open. -/
def code (depth : Nat) : Nesting := ⟨.content, depth⟩

def after (nesting : Nesting) (c : Char) : Nesting where
  zone := nesting.zone.after c
  depth :=
    if nesting.zone = .value then nesting.depth
    else if c = '\x7b' then nesting.depth + 1
    else if c = '\x7d' then nesting.depth - 1
    else nesting.depth

def afterText (nesting : Nesting) (text : List Char) : Nesting := text.foldl after nesting

end Nesting

/-- The lines that begin outside all braces. -/
def topLines (nesting : Nesting) : List String → List String
  | [] => []
  | line :: rest =>
    (if nesting = .code 0 then [line] else []) ++ topLines (nesting.afterText (line.toList ++ ['\n'])) rest

/-- The lines of a component's file that are a module. A component for Vue has its module in
an element of its own. -/
def moduleLines (target : Target) (text : String) : List String :=
  match target with
  | .react | .angular => linesOf text
  | .vue => innerLines "script" (linesOf text)

/-- What the file of a component says about names at its top. -/
def moduleStatements (target : Target) (text : String) : List Statement :=
  statements (topLines (.code 0) (moduleLines target text))

def boundNames (target : Target) (text : String) : List String :=
  (moduleStatements target text).flatMap Statement.bound

def exportedNames (target : Target) (text : String) : List String :=
  (moduleStatements target text).flatMap Statement.exported

section Tokens
variable {pending word rest text : List Char}

private theorem lexAfter_word (parts : ∀ c ∈ word, isWordPart c = true) :
    lexAfter (.word pending) (word ++ rest) = lexAfter (.word (word.reverse ++ pending)) rest := by
  induction word generalizing pending with
  | nil => rfl
  | cons c word ih =>
    obtain ⟨part, more⟩ := List.forall_mem_cons.mp parts
    rw [List.cons_append, lexAfter, if_pos part, Pending.add, ih more, List.reverse_cons, List.append_assoc]
    · rfl
    · exact fun chars absurd => nomatch absurd

theorem lexAfter_name {name : String} (plain : IsPlain name) :
    lexAfter .nothing (name.toList ++ rest) = lexAfter (.word name.toList.reverse) rest := by
  have parts : ∀ c ∈ name.toList, isWordPart c = true := fun c member => by simp [isWordPart, plain.parts c member]
  cases spelling : name.toList with
  | nil => exact absurd (String.toList_eq_nil_iff.mp spelling) plain.nonempty
  | cons c word =>
    rw [spelling] at parts
    obtain ⟨part, more⟩ := List.forall_mem_cons.mp parts
    rw [List.cons_append, lexAfter, if_pos part, Pending.add, lexAfter_word more, List.reverse_cons]
    exact fun chars absurd => nomatch absurd

theorem lexAfter_quoted (unquoted : '\'' ∉ text) :
    lexAfter (.quoted pending) (text ++ '\'' :: rest) =
      .quoted (String.ofList (pending.reverse ++ text)) :: lexAfter .nothing rest := by
  induction text generalizing pending with
  | nil => simp [lexAfter]
  | cons c text ih =>
    rw [List.mem_cons, not_or] at unquoted
    rw [List.cons_append, lexAfter, if_neg (Ne.symm unquoted.1), ih unquoted.2]
    simp

theorem lexAfter_ended (pending rest : List Char) {c : Char} (other : isWordPart c = false) (unquoted : c ≠ '\'') :
    ∃ tail, lexAfter (.word pending) (c :: rest) = .word (String.ofList pending.reverse) :: tail := by
  have unpaired : ∀ chars, Pending.word pending ≠ .quoted chars := fun chars absurd => nomatch absurd
  rw [lexAfter, if_neg (by simp [other]), if_neg unquoted]
  · split <;> exact ⟨_, rfl⟩
  · exact unpaired

/-- A declaration is read by the name it declares, with what is added to it. -/
theorem ofTokens?_declaration (before added rest : String) {name kind : String} (declares : kind ∈ declarations)
    (read : ∀ more, lexAfter .nothing (before.toList ++ more) = .word "export" :: .word kind :: lexAfter .nothing more)
    (plain : IsPlain name) (parts : ∀ c ∈ added.toList, isNamePart c = true)
    (ended : ∃ c more, rest.toList = added.toList ++ c :: more ∧ isWordPart c = false ∧ c ≠ '\'') :
    Statement.ofTokens? (lex (before ++ name ++ rest)) = some (.exportDeclared (name ++ added)) := by
  obtain ⟨c, more, spelling, other, unquoted⟩ := ended
  obtain ⟨tail, tokens⟩ := lexAfter_ended (name ++ added).toList.reverse more other unquoted
  have spelled : (before ++ name ++ rest).toList = before.toList ++ ((name ++ added).toList ++ c :: more) := by
    simp [spelling]
  rw [lex, spelled, read, lexAfter_name (isPlain_append plain parts), tokens]
  simp [Statement.ofTokens?, export?, declares]

end Tokens

namespace Nesting

variable {nesting : Nesting} {text : List Char}

theorem afterText_append (nesting : Nesting) (first second : List Char) :
    nesting.afterText (first ++ second) = (nesting.afterText first).afterText second :=
  List.foldl_append

/-- Characters that open and close nothing, outside tags. -/
def isFlat (c : Char) : Bool := c ∉ ['<', '\x7b', '\x7d']

theorem afterText_flat {depth : Nat} (flat : ∀ c ∈ text, isFlat c = true) : (code depth).afterText text = code depth := by
  induction text with
  | nil => rfl
  | cons c text ih =>
    obtain ⟨first, more⟩ := List.forall_mem_cons.mp flat
    have same : (code depth).after c = code depth := by
      simp only [isFlat, List.mem_cons, List.not_mem_nil, or_false, not_or, decide_eq_true_eq] at first
      simp [code, after, Zone.after, first]
    exact (congrArg (afterText · text) same).trans (ih more)

/-- A name between two texts leaves the reader where the first one brought it. -/
theorem afterText_around (depth : Nat) {before name rest : String} {next : Nesting}
    (read : nesting.afterText before.toList = code depth) (flat : ∀ c ∈ name.toList, isFlat c = true)
    (done : (code depth).afterText rest.toList = next) : nesting.afterText (before ++ name ++ rest).toList = next := by
  rw [String.toList_append, String.toList_append, afterText_append, afterText_append, read, afterText_flat flat, done]

/-- Without braces outside values, text leaves the depth as it is. -/
theorem afterText_of_not_mem (opening : '\x7b' ∉ outsideValues nesting.zone text)
    (closing : '\x7d' ∉ outsideValues nesting.zone text) :
    nesting.afterText text = ⟨text.foldl Zone.after nesting.zone, nesting.depth⟩ := by
  induction text generalizing nesting with
  | nil => rfl
  | cons c text ih =>
    have depth : (nesting.after c).depth = nesting.depth := by
      unfold after
      by_cases inside : nesting.zone = .value
      · simp [inside]
      · simp only [outsideValues, if_neg inside, List.mem_cons, not_or] at opening closing
        simp [inside, Ne.symm opening.1, Ne.symm closing.1]
    -- outside values the first character is dropped, inside them there is nothing to drop
    have rest : ∀ d, d ∉ outsideValues nesting.zone (c :: text) → d ∉ outsideValues (nesting.zone.after c) text := by
      intro d absent
      unfold outsideValues at absent
      split at absent
      · exact absent
      · exact fun member => absent (List.mem_cons_of_mem _ member)
    have more := @ih (nesting.after c) (rest _ opening) (rest _ closing)
    rw [depth] at more
    exact more

end Nesting

theorem topLines_append (nesting : Nesting) (first second : List String) :
    topLines nesting (first ++ second) =
      topLines nesting first ++ topLines (nesting.afterText (joinLines first)) second := by
  induction first generalizing nesting with
  | nil => rfl
  | cons line first ih =>
    rw [List.cons_append, topLines, topLines, ih, List.append_assoc, ← Nesting.afterText_append]
    rfl

theorem innerLines_eq {tag opening closing : String} {before inner : List String} (rest : List String)
    (unopened : ∀ line ∈ before, openedTag? line ≠ some tag) (opened : openedTag? opening = some tag)
    (unclosed : ∀ line ∈ inner, closedTag? line ≠ some tag) (closed : closedTag? closing = some tag) :
    innerLines tag (before ++ opening :: (inner ++ closing :: rest)) = inner := by
  rw [innerLines, List.dropWhile_append_of_pos (by simpa using unopened),
    List.dropWhile_cons_of_neg (by simp [opened]), List.drop_one, List.tail_cons,
    List.takeWhile_append_of_pos (by simpa using unclosed), List.takeWhile_cons_of_neg (by simp [closed]),
    List.append_nil]

section Lines
variable {line : String} {rest : List String} {depth : Nat} (next : Nat)

theorem topLines_top (read : (Nesting.code 0).afterText line.toList = .code next) :
    topLines (.code 0) (line :: rest) = line :: topLines (.code next) rest := by
  rw [topLines, if_pos rfl, Nesting.afterText_append, read]
  rfl

theorem topLines_inner (deep : 0 < depth) (read : (Nesting.code depth).afterText line.toList = .code next) :
    topLines (.code depth) (line :: rest) = topLines (.code next) rest := by
  have inside : Nesting.code depth ≠ .code 0 := fun same => Nat.ne_of_gt deep (congrArg Nesting.depth same)
  rw [topLines, if_neg inside, List.nil_append, Nesting.afterText_append, read]
  rfl

end Lines

end Handoff.Script
