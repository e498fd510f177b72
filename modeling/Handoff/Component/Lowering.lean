import Handoff.Classes.Node
import Handoff.Component.Card
import Handoff.Component.Library
import Handoff.Markup.Printer

/-!
The markup of a layer in the elements of a library.
-/
namespace Handoff.Component

open Classes (TokenMap)

/-- The label of a button that has no text. -/
def defaultButtonLabel : String := "Button"

def pictureAttributes (layer : Layer) : List Attribute :=
  [.value "src" (layer.assetUrl.getD ""), .value "alt" layer.name]

/-- The text of a layer as the children of an element. -/
def textChildren (layer : Layer) : List Markup := layer.text?.toList.map .text

def cardChildren (parts : CardParts) (card : Node) (children : List Markup) : List Markup :=
  let plan := CardPlan.ofChildren card.children
  let header := (plan.distribute card.children).header
  let title := (header.bind fun header => Node.firstText? header).getD card.value.name
  let slots := plan.distribute children
  slots.header.toList.map (fun _ => parts.header.element [parts.title.element [.text title]])
    ++ (if slots.content.isEmpty then [] else [parts.content.element slots.content])
    ++ slots.footer.toList.map fun footer => parts.footer.element [footer]

/-- A layer whose role has a wrapper, given the markup of its children. -/
def wrapped (library : Library) (wrapper : Wrapper) (classAttribute classes : String) (node : Node)
    (children : List Markup) : Markup :=
  match node.value.role, library.cardParts with
  | .card, some parts => wrapper.element classAttribute classes (cardChildren parts node children)
  | .button, _ =>
    wrapper.element classAttribute classes [.text (node.firstText?.getD defaultButtonLabel)]
  | _, _ =>
    if wrapper.hasSlot then wrapper.element classAttribute classes children
    else
      .element wrapper.tag
        (wrapper.attributes classAttribute classes
          ++ node.firstText?.toList.map (.value "placeholder")) []

/-- A layer, given its classes and the markup of its children. -/
def elementOf (library : Library) (classAttribute classes : String) (node : Node)
    (children : List Markup) : Markup :=
  let layer := node.value
  let styling := Markup.classAttribute classAttribute classes
  match layer.role, library.wrapper? layer.role with
  | .text, _ => .element "p" styling (textChildren layer)
  | .divider, some wrapper => wrapper.element classAttribute classes []
  | .divider, none => .element "hr" styling []
  | .image, _ => .element "img" (styling ++ pictureAttributes layer) []
  | _, some wrapper => wrapped library wrapper classAttribute classes node children
  | _, none => .element "div" styling children

mutual

/-- The markup of a layer and of everything inside it. -/
def markupOf (library : Library) (classAttribute : String) (tokens : Option TokenMap) :
    Node → Markup
  | .node layer children =>
    elementOf library classAttribute (Classes.nodeClasses (.node layer children) tokens).text
      (.node layer children) (allMarkupOf library classAttribute tokens children)

def allMarkupOf (library : Library) (classAttribute : String) (tokens : Option TokenMap) :
    List Node → List Markup
  | [] => []
  | child :: rest =>
    markupOf library classAttribute tokens child :: allMarkupOf library classAttribute tokens rest

end

end Handoff.Component
