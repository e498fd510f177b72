import Handoff.Text.Letter

/-!
Names made from free-form labels. A label is split into words, which are joined as an identifier in
PascalCase or as a name in kebab-case.
-/
namespace Handoff.Naming

/-- The word that is open, given in reverse, unless it is empty. -/
def closed (word : List Char) : List (List Char) := if word.isEmpty then [] else [word.reverse]

/-- Whether a capital right after a character starts another word: it does so after small letters
and ASCII digits. -/
def precedesWord (c : Char) : Bool := Text.isLowercase c || c.isDigit

/-- The words of a text, given the open word in reverse and whether a capital starts another one. A
character outside words closes the open word as well. -/
def wordsAfter (word : List Char) (boundary : Bool) : List Char → List (List Char)
  | [] => closed word
  | c :: rest =>
    if Text.isAlphanumeric c then
      if Text.isUppercase c && boundary then closed word ++ wordsAfter [c] (precedesWord c) rest
      else wordsAfter (c :: word) (precedesWord c) rest
    else closed word ++ wordsAfter [] false rest

def words (label : List Char) : List (List Char) := wordsAfter [] false label

def capitalize : List Char → List Char
  | [] => []
  | c :: rest => Text.capital c ++ rest

/-- The identifier of a label that has no words, and the start of one that would begin with a
digit. -/
def fallback : String := "Component"

def pascalCase (label : String) : String :=
  let joined := (words label.toList).flatMap capitalize
  match joined with
  | [] => fallback
  | c :: _ => if c.isDigit then fallback ++ String.ofList joined else String.ofList joined

/-- The lower-case name made from a label, its words joined by hyphens. -/
def kebabCase (label : String) : String :=
  String.intercalate "-" ((words label.toList).map fun word => Text.lowercase (String.ofList word))

/-- Whether a text is an identifier of ASCII letters and digits that starts with a capital. -/
def isPascalCase (s : String) : Bool :=
  match s.toList with
  | [] => false
  | c :: rest => c.isUpper && rest.all Char.isAlphanum

/-- Whether hyphens stand only between other characters. -/
def hyphensSeparate : List Char → Bool
  | [] => false
  | [c] => c != '-'
  | '-' :: _ => false
  | _ :: '-' :: rest => hyphensSeparate rest
  | _ :: rest => hyphensSeparate rest

/-- Whether a text is a name of lower-case ASCII words joined by single hyphens. -/
def isKebabCase (s : String) : Bool :=
  hyphensSeparate s.toList && s.toList.all fun c => c.isLower || c.isDigit || c == '-'

end Handoff.Naming
