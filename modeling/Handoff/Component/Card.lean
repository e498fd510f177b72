import Handoff.Design.Node
import Handoff.Text.Letter
import Handoff.Text.Parts

/-!
The slots of a card. The first child that is labelled a header is the header, the first other child
labelled a footer is the footer, and everything else is content.
-/
namespace Handoff.Component

/-- A card's children by slot. -/
structure CardSlots (α : Type) where
  header : Option α
  content : List α
  footer : Option α

/-- Where among a card's children its header and its footer are. -/
structure CardPlan where
  header : Option Nat
  footer : Option Nat

/-- Whether a layer's label, in small letters, has a word in it. -/
def isLabelled (word : String) (node : Node) : Bool :=
  Text.occursIn word.toList (Text.lowercaseAfter [] node.value.name.toList)

/-- The place of the first child that satisfies a test and is not at a given place. -/
def firstOther (test : Node → Bool) (excluded : Option Nat) (children : List Node) : Option Nat :=
  children.zipIdx.findIdx? fun (child, i) => some i != excluded && test child

def CardPlan.ofChildren (children : List Node) : CardPlan :=
  let header := children.findIdx? (isLabelled "header")
  ⟨header, firstOther (isLabelled "footer") header children⟩

/-- Puts values that belong to a card's children into their slots. -/
def CardPlan.distribute {α : Type} (plan : CardPlan) (values : List α) : CardSlots α where
  header := plan.header.bind (values[·]?)
  content :=
    (values.zipIdx.filter fun (_, i) => some i != plan.header && some i != plan.footer).map Prod.fst
  footer := plan.footer.bind (values[·]?)

end Handoff.Component
