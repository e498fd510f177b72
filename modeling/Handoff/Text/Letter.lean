import Handoff.Text.Property.Alphanumeric
import Handoff.Text.Property.Case

/-!
Letters of every script: which characters belong to words, and the full case mappings of characters
and of text, where one letter may become several and a sigma that ends a word has a form of its own.
-/
namespace Handoff.Text

def isAlphanumeric (c : Char) : Bool := Span.tableContains Property.alphanumeric c.toNat
def isUppercase (c : Char) : Bool := Span.tableContains Property.uppercase c.toNat
def isLowercase (c : Char) : Bool := Span.tableContains Property.lowercase c.toNat
def isCased (c : Char) : Bool := Span.tableContains Property.cased c.toNat
def isCaseIgnorable (c : Char) : Bool := Span.tableContains Property.caseIgnorable c.toNat

/-- Applies a case mapping: a sequence where one is listed, else the shift of the letter's span. -/
private def mapLetter (sequences : List (Nat × List Nat)) (shifts : List Property.Shift)
    (c : Char) : List Char :=
  match sequences.find? (·.1 == c.toNat) with
  | some (_, codes) => codes.map Char.ofNat
  | none =>
    match shifts.find? (·.span.contains c.toNat) with
    | some shift => [Char.ofNat ((c.toNat : Int) + shift.offset).toNat]
    | none => [c]

def capital (c : Char) : List Char :=
  mapLetter Property.capitalSequences Property.capitalShifts c

def small (c : Char) : List Char :=
  mapLetter Property.smallSequences Property.smallShifts c

/-- Whether the first character that is no mere mark is a cased letter. -/
def meetsCased (chars : List Char) : Bool :=
  match chars.dropWhile isCaseIgnorable with
  | [] => false
  | c :: _ => isCased c

/-- The small form of text whose preceding characters are given in reverse. -/
def lowercaseAfter (before : List Char) : List Char → List Char
  | [] => []
  | c :: rest =>
    let form :=
      if c = 'Σ' then (if meetsCased before && !meetsCased rest then ['ς'] else ['σ'])
      else small c
    form ++ lowercaseAfter (c :: before) rest

def lowercase (s : String) : String := String.ofList (lowercaseAfter [] s.toList)

end Handoff.Text
