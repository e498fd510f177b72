import Handoff.Binary64.Text
import Handoff.Classes.Palette
import Handoff.Classes.Tokens
import Handoff.Design.Style

/-!
Classes for colours. A colour is written as its token, else as a named colour that is near enough,
else as its own hexadecimal form; an opacity below one follows as a percentage.
-/
namespace Handoff.Classes

/-- Colours nearer than this to a named one are written with its name. -/
def nearnessThreshold : Binary64 := 20

/-- How a colour is called, without its opacity. -/
def colorName (color : Color) (tokens : Option TokenMap) : String :=
  match tokens.bind (·.get? color.hex) with
  | some name => "[var(" ++ name ++ ")]"
  | none =>
    match nearest? color with
    | some (entry, distance) =>
      if distance < nearnessThreshold then entry.name else "[#" ++ color.hex ++ "]"
    | none => "[#" ++ color.hex ++ "]"

/-- A fraction as a percentage, rounded and not below zero. -/
def percentage (fraction : Binary64) : Int := (fraction * 100).roundToInt 0 4294967295

/-- The class of a colour used for a purpose. -/
def colorClass (purpose : String) (color : Color) (tokens : Option TokenMap) : String :=
  purpose ++ "-" ++ colorName color tokens ++
    if color.isTranslucent then "/" ++ toString (percentage color.alpha) else ""

/-- Background classes of one paint. A linear gradient names its first and last colours and, of
three or more, the second; radial gradients and images have no classes. -/
def fillClass (tokens : Option TokenMap) : Fill → List String
  | .solid color => [colorClass "bg" color tokens]
  | .linear stops =>
    match stops.head?, stops.getLast? with
    | some first, some last =>
      ["bg-gradient-to-r", colorClass "from" first.color tokens, colorClass "to" last.color tokens]
        ++ match stops with
          | _ :: second :: _ :: _ => [colorClass "via" second.color tokens]
          | _ => []
    | _, _ => []
  | .radial _ => []
  | .image _ => []

def fillClasses (fills : List Fill) (tokens : Option TokenMap) : List String :=
  fills.flatMap (fillClass tokens)

end Handoff.Classes
