import Handoff.Proofs.NameCharacters
import Handoff.Proofs.OrderedMaps
import Handoff.Proofs.SourceLines
import Handoff.Site.Plan

/-! Reading a stylesheet. The rules of a stylesheet for the root of a document declare custom
properties, and of several declarations of one property the last applies. The stylesheet of
a site declares every variable whose name a custom property can have, in order. -/

namespace Handoff

namespace Text

variable {p : Char → Bool} {chars : List Char}

theorem dropWhile_of_none (none : ∀ c ∈ chars, p c = false) : chars.dropWhile p = chars := by
  cases chars with
  | nil => rfl
  | cons c rest => rw [List.dropWhile_cons_of_neg (by simp [none c List.mem_cons_self])]

theorem dropFinal_of_none (none : ∀ c ∈ chars, p c = false) : dropFinal p chars = chars := by
  have reversed : ∀ c ∈ chars.reverse, p c = false := fun c member => none c (List.mem_reverse.mp member)
  rw [dropFinal, dropWhile_of_none reversed, List.reverse_reverse]

end Text

namespace Css
open Text Naming

/-- What may stand around the parts of a declaration. -/
def isSpace (c : Char) : Bool := c = ' ' || c = '\n' || c = '\t' || c = '\r' || c = '\x0c'

def strip (chars : List Char) : String := String.ofList (dropFinal isSpace (chars.dropWhile isSpace))

def isNameChar (c : Char) : Bool := isNamePart c || c = '-' || c = '_'

/-- Whether a text is the name of a custom property, with nothing in it escaped. -/
def isPropertyName (name : String) : Bool :=
  match name.toList with
  | '-' :: '-' :: first :: rest => (first :: rest).all isNameChar
  | _ => false

/-- A custom property and its value. -/
def declaration? (part : List Char) : Option (String × String) :=
  match split ':' part with
  | name :: value :: more =>
    if isPropertyName (strip name) then some (strip name, strip (join ':' (value :: more))) else none
  | _ => none

/-- The selector of a rule, which statements may precede, and what is between its braces. -/
def rule? (block : List Char) : Option (String × List Char) :=
  match split '\x7b' block with
  | [prelude, body] => some (strip ((split ';' prelude).getLastD []), body)
  | _ => none

/-- The custom properties that a stylesheet declares for the root of a document. -/
def declarations (sheet : String) : List (String × String) :=
  (((split '\x7d' sheet.toList).filterMap rule?).filter (·.1 = ":root")).flatMap
    fun rule => (split ';' rule.2).filterMap declaration?

/-- The value of a property, which is that of its last declaration. -/
def lastValue? (declared : List (String × String)) (name : String) : Option String :=
  (declared.reverse.find? (·.1 = name)).map Prod.snd

theorem lastValue?_of_mem {declared : List (String × String)} {name value : String} (distinct : (declared.map Prod.fst).Nodup)
    (member : (name, value) ∈ declared) : lastValue? declared name = some value := by
  have reversed : (declared.reverse.map Prod.fst).Nodup := by
    rw [List.map_reverse]
    exact List.nodup_reverse.mpr distinct
  let stored : OrderedMap String String := ⟨declared.reverse, reversed⟩
  have found : stored.get? name = some value := OrderedMap.get?_eq_some_iff.mpr (List.mem_reverse.mpr member)
  exact found

theorem isNameChar_of_isPropertyName {name : String} (valid : isPropertyName name = true) :
    ∀ c ∈ name.toList, isNameChar c = true := by
  unfold isPropertyName at valid
  split at valid
  next first rest spelled =>
    rw [spelled]
    exact List.forall_mem_cons.mpr ⟨rfl, List.forall_mem_cons.mpr ⟨rfl, List.all_eq_true.mp valid⟩⟩
  next => cases valid

theorem not_mem_of_isNameChar {chars : List Char} {c : Char} (named : ∀ d ∈ chars, isNameChar d = true)
    (other : isNameChar c = false) : c ∉ chars :=
  fun member => Bool.noConfusion ((named c member).symm.trans other)

private theorem isSpace_of_isNameChar {c : Char} (named : isNameChar c = true) : isSpace c = false := by
  refine Bool.eq_false_iff.mpr fun space => ?_
  simp only [isSpace, Bool.or_eq_true, decide_eq_true_eq] at space
  rcases space with (((rfl | rfl) | rfl) | rfl) | rfl <;> exact absurd named (by decide)

private theorem strip_append {spaces : List Char} {s : String} (blank : ∀ c ∈ spaces, isSpace c = true)
    (solid : ∀ c ∈ s.toList, isSpace c = false) : strip (spaces ++ s.toList) = s := by
  rw [strip, List.dropWhile_append_of_pos blank, dropWhile_of_none solid, dropFinal_of_none solid, String.ofList_toList]

end Css

namespace Site
open Text Css CodeBuilder

variable {tokens : Classes.TokenMap}

/-- What stands before the braces. -/
def rootPrelude : List Char := joinLines (directives ++ [""]) ++ ":root ".toList

private theorem toList_stylesheet (some : tokens.toList ≠ []) :
    (stylesheet tokens).toList =
      rootPrelude ++ '\x7b' :: ('\n' :: joinLines (tokens.toList.map fun token => indented 1 (declaration token))) ++
        '\x7d' :: ['\n'] := by
  have nonempty : tokens.toList.isEmpty = false := List.isEmpty_eq_false_iff.mpr some
  have start : (atLevel 0).text = "" := rfl
  rw [stylesheet, nonempty]
  simp [text_line, text_lines, text_blank, text_indent, text_dedent, joinLines, rootPrelude, CodeBuilder.empty, start,
    Function.comp_def]

/-- A declaration up to its semicolon, from the line end before it. -/
def written (token : String × String) : List Char :=
  ['\n', ' ', ' '] ++ token.2.toList ++ ':' :: ([' '] ++ ("#" ++ token.1).toList)

/-- What is between the braces. -/
def rootBody (tokens : List (String × String)) : List Char :=
  ((tokens.map written).flatMap fun part => part ++ [';']) ++ ['\n']

private theorem joinLines_declarations (tokens : List (String × String)) :
    '\n' :: joinLines (tokens.map fun token => indented 1 (declaration token)) = rootBody tokens := by
  induction tokens with
  | nil => rfl
  | cons token tokens ih =>
    have first : '\n' :: joinLines ((token :: tokens).map fun token => indented 1 (declaration token)) =
        written token ++ ';' :: ('\n' :: joinLines (tokens.map fun token => indented 1 (declaration token))) := by
      simp [joinLines, indented, indentation, declaration, written]
    rw [first, ih]
    simp [rootBody]

/-- A token that can be written as a declaration. -/
structure IsDeclarable (token : String × String) : Prop where
  name : isPropertyName token.2 = true
  color : ∀ c ∈ token.1.toList, isNameChar c = true

namespace IsDeclarable

variable {token : String × String} (declarable : IsDeclarable token)
include declarable

theorem not_mem_written {c : Char} (other : isNameChar c = false) (apart : c ∉ ['\n', ' ', ':', '#']) :
    c ∉ written token := by
  have name := not_mem_of_isNameChar (isNameChar_of_isPropertyName declarable.name) other
  have color := not_mem_of_isNameChar declarable.color other
  simp only [List.mem_cons, List.not_mem_nil, or_false, not_or] at apart
  simp [written, name, color, apart]

private theorem declaration?_written : declaration? (written token) = some (token.2, "#" ++ token.1) := by
  have named := isNameChar_of_isPropertyName declarable.name
  have name : ':' ∉ ['\n', ' ', ' '] ++ token.2.toList := by
    simpa using not_mem_of_isNameChar named (by decide : isNameChar ':' = false)
  have value : ':' ∉ [' '] ++ ("#" ++ token.1).toList := by
    simpa using not_mem_of_isNameChar declarable.color (by decide : isNameChar ':' = false)
  have solid : ∀ c ∈ ("#" ++ token.1).toList, isSpace c = false := by
    rw [String.toList_append]
    refine List.forall_mem_append.mpr ⟨by decide, fun c member => isSpace_of_isNameChar (declarable.color c member)⟩
  have stripped : strip (['\n', ' ', ' '] ++ token.2.toList) = token.2 :=
    strip_append (by decide) fun c member => isSpace_of_isNameChar (named c member)
  have left : strip ([' '] ++ ("#" ++ token.1).toList) = "#" ++ token.1 := strip_append (by decide) solid
  have parts : split ':' (written token) = [['\n', ' ', ' '] ++ token.2.toList, [' '] ++ ("#" ++ token.1).toList] := by
    rw [written, split_append, split_of_not_mem name, split_of_not_mem value]
    rfl
  rw [declaration?, parts]
  dsimp only [join]
  rw [stripped, left, if_pos declarable.name]

end IsDeclarable

section Body

variable {known : List (String × String)} (declarable : ∀ token ∈ known, IsDeclarable token)
include declarable

theorem not_mem_rootBody {c : Char} (other : isNameChar c = false) (apart : c ∉ ['\n', ' ', ':', '#', ';']) :
    c ∉ rootBody known := by
  simp only [rootBody, List.mem_append, List.mem_flatMap, List.mem_map, List.mem_singleton]
  rintro (⟨_, ⟨token, listed, rfl⟩, inside | rfl⟩ | rfl)
  · refine (declarable token listed).not_mem_written other (fun punctuation => apart ?_) inside
    exact List.mem_append_left [';'] punctuation
  · exact apart (by decide)
  · exact apart (by decide)

private theorem rule?_root : rule? (rootPrelude ++ '\x7b' :: rootBody known) = some (":root", rootBody known) := by
  have before : '\x7b' ∉ rootPrelude := by decide
  have inside : '\x7b' ∉ rootBody known := not_mem_rootBody declarable (by decide) (by decide)
  have selector : strip ((split ';' rootPrelude).getLastD []) = ":root" := by decide
  rw [rule?, split_append, split_of_not_mem before, split_of_not_mem inside, ← selector]
  rfl

private theorem declared_rootBody :
    (split ';' (rootBody known)).filterMap declaration? = known.map fun token => (token.2, "#" ++ token.1) := by
  have parts : ∀ part ∈ known.map written, ';' ∉ part :=
    List.forall_mem_map.mpr fun token listed => (declarable token listed).not_mem_written (by decide) (by decide)
  have last : split ';' ['\n'] = [['\n']] := rfl
  have ended : [['\n']].filterMap declaration? = [] := rfl
  rw [rootBody, split_ended parts, last, List.filterMap_append, ended, List.append_nil, List.filterMap_map,
    ← List.filterMap_eq_map]
  exact List.filterMap_congr fun token listed => (declarable token listed).declaration?_written

end Body

/-- All variables of the tokens are declared, in their order, and nothing else is. -/
theorem declarations_stylesheet (declarable : ∀ token ∈ tokens.toList, IsDeclarable token) :
    declarations (stylesheet tokens) = tokens.toList.map fun token => (token.2, "#" ++ token.1) := by
  by_cases none : tokens.toList = []
  · have nothing : declarations (CodeBuilder.empty.lines directives).text = [] := by decide
    rw [stylesheet, none]
    exact nothing
  have closing : '\x7d' ∉ rootPrelude ++ '\x7b' :: rootBody tokens.toList := by
    have inside : '\x7d' ∉ rootBody tokens.toList := not_mem_rootBody declarable (by decide) (by decide)
    have before : '\x7d' ∉ rootPrelude ++ ['\x7b'] := by decide
    rw [List.append_cons, List.mem_append, not_or]
    exact ⟨before, inside⟩
  -- the line end after the closing brace makes a block of its own, which is no rule
  have last : split '\x7d' ['\n'] = [['\n']] := rfl
  have ended : [['\n']].filterMap rule? = [] := rfl
  have rules : (split '\x7d' (stylesheet tokens).toList).filterMap rule? = [(":root", rootBody tokens.toList)] := by
    rw [toList_stylesheet none, joinLines_declarations, split_append, split_of_not_mem closing, last,
      List.filterMap_append, ended, List.append_nil, List.filterMap_cons, rule?_root declarable]
    rfl
  have selected : [(":root", rootBody tokens.toList)].filter (·.1 = ":root") = [(":root", rootBody tokens.toList)] := rfl
  rw [declarations, rules, selected, List.flatMap_singleton]
  exact declared_rootBody declarable

end Site

end Handoff
