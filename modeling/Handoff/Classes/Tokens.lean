import Handoff.OrderedMap
import Handoff.Text.Letter
import Handoff.Text.Parts

/-!
Design tokens: colours that a stylesheet knows as variables.
-/
namespace Handoff.Classes

/-- Variables by colour. A colour is six small hexadecimal digits and a variable starts with two
hyphens. -/
structure TokenMap where
  entries : OrderedMap String String
  deriving DecidableEq

namespace TokenMap

def empty : TokenMap := ⟨.empty⟩

/-- A colour as it is looked up: without blanks at its ends, number signs in front, and capitals. -/
def normalizeColor (color : String) : String :=
  String.ofList (((Text.trim color).toList.dropWhile (· == '#')).map Char.toLower)

/-- A variable with the hyphens that it starts with. -/
def normalizeVariable (name : String) : String :=
  let trimmed := Text.trim name
  if "--".toList.isPrefixOf trimmed.toList then trimmed else "--" ++ trimmed

def insert (tokens : TokenMap) (color name : String) : TokenMap :=
  ⟨tokens.entries.insert (normalizeColor color) (normalizeVariable name)⟩

def ofList (pairs : List (String × String)) : TokenMap :=
  pairs.foldl (fun tokens (color, name) => tokens.insert color name) empty

def get? (tokens : TokenMap) (color : String) : Option String :=
  tokens.entries.get? (normalizeColor color)

/-- Colours with their variables, in the order in which the colours first came. -/
def toList (tokens : TokenMap) : List (String × String) := tokens.entries.entries

end TokenMap

end Handoff.Classes
