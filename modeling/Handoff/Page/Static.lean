import Handoff.Classes.Node
import Handoff.Design.Node
import Handoff.Markup.Printer

/-!
Designs as plain markup, for pages that mount no components.
-/
namespace Handoff.Page

/-- The element of a text, by its size. Text without typography is a paragraph. -/
def headingTag (style : Option TextStyle) : String :=
  match style with
  | none => "p"
  | some style =>
    if 48 ≤ style.fontSize then "h1"
    else if 36 ≤ style.fontSize then "h2"
    else if 24 ≤ style.fontSize then "h3"
    else if 20 ≤ style.fontSize then "h4"
    else if 16 ≤ style.fontSize then "p"
    else "span"

def sectionTag : Role → String
  | .navbar => "nav"
  | .footer => "footer"
  | .hero => "section"
  | .sidebar => "aside"
  | .card => "article"
  | _ => "div"

/-- A layer as plain markup, given its classes and the markup of its children. -/
def plainElement (layer : Layer) (classes : String) (children : List Markup) : Markup :=
  let styling := Markup.classAttribute "class" classes
  match layer.role with
  | .text => .element (headingTag layer.textStyle) styling (layer.text?.toList.map .text)
  | .image =>
    .element "img"
      (styling ++ [.value "src" (layer.assetUrl.getD ""), .value "alt" layer.name]) []
  | .divider => .element "hr" styling []
  | role => .element (sectionTag role) styling children

mutual

/-- A layer and everything inside it as plain markup. -/
def plainMarkup : Node → Markup
  | .node layer children =>
    plainElement layer (Classes.nodeClasses (.node layer children) none).text
      (allPlainMarkup children)

def allPlainMarkup : List Node → List Markup
  | [] => []
  | child :: rest => plainMarkup child :: allPlainMarkup rest

end

def plainStyle (baseLevel : Nat) : Markup.Style where
  classAttribute := "class"
  textEntities := Markup.textEntities
  selfClosing := .always
  baseLevel := baseLevel

end Handoff.Page
