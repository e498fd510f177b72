import Handoff.Text.Parts

/-!
Places in a text, counted in bytes, and how the assignment of a key and a quoted value are found in
the text of a manifest.
-/
namespace Handoff.Text

/-- A stretch of a text, in bytes. -/
structure Extent where
  offset : Nat
  length : Nat
  deriving DecidableEq

def byteLength (chars : List Char) : Nat := chars.foldr (fun c length => c.utf8Size + length) 0

/-- What follows a word at the start of a text. -/
def after? (word text : List Char) : Option (List Char) :=
  if word.isPrefixOf text then some (text.drop word.length) else none

def inQuotes (chars : List Char) : List Char := '"' :: chars ++ ['"']

/-- What follows a key, with or without quotes, at the start of a text. -/
def afterKey? (key text : List Char) : Option (List Char) :=
  (after? key text).or (after? (inQuotes key) text)

def keyInLine? (key line : List Char) : Option Extent :=
  let text := line.dropWhile isBlank
  match afterKey? key text with
  | none => none
  | some rest =>
    match rest.dropWhile isBlank with
    | '=' :: _ =>
      some ⟨byteLength line - byteLength text, byteLength text - byteLength rest⟩
    | _ => none

/-- Where lines first assign a key, given where the lines start. -/
def keyInLines? (key : List Char) (start : Nat) : List (List Char) → Option Extent
  | [] => none
  | line :: rest =>
    match keyInLine? key line with
    | some extent => some { extent with offset := start + extent.offset }
    | none => keyInLines? key (start + byteLength line + 1) rest

/-- Where a text first assigns a key at the start of a line. -/
def keyExtent? (text key : String) : Option Extent :=
  keyInLines? key.toList 0 (split '\n' text.toList)

/-- What stands before the first occurrence of a word. -/
def before? (word : List Char) : List Char → Option (List Char)
  | [] => if word.isEmpty then some [] else none
  | c :: rest =>
    if word.isPrefixOf (c :: rest) then some [] else (before? word rest).map (c :: ·)

/-- Where a text first has a value in quotes, without the quotes. An empty value is nowhere. -/
def valueExtent? (text value : String) : Option Extent :=
  if value.isEmpty then none
  else (before? (inQuotes value.toList) text.toList).map fun before =>
    ⟨byteLength before + 1, byteLength value.toList⟩

end Handoff.Text
