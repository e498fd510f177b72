import Handoff.Design.Layout
import Handoff.Design.Role
import Handoff.Design.Style
import Handoff.OrderedMap
import Handoff.Tree

/-!
Designs as trees of layers, and what is asked of them. Patching an asset's address is the one change
made to a finished tree; a page leaves out what adds nothing to it, invisible layers and small
decorations.
-/
namespace Handoff

/-- Everything a layer says about itself, apart from the layers inside it. -/
structure Layer where
  id : String
  name : String
  role : Role
  visible : Bool
  fills : List Fill
  borders : List Border
  shadows : List Shadow
  radii : CornerRadii
  opacity : Binary64
  clipContent : Bool
  layout : Layout
  dimensions : Dimensions
  textContent : Option String
  textStyle : Option TextStyle
  assetUrl : Option String
  isInteractive : Bool
  interaction : Option Interaction
  deriving DecidableEq

/-- The text of a layer, if there is any. -/
def Layer.text? (layer : Layer) : Option String := layer.textContent.filter (!·.isEmpty)

def Layer.hasImageFill (layer : Layer) : Bool := layer.fills.any Fill.isImage

/-- A layer whose picture is exported: an image, or anything painted with one. -/
def Layer.bearsAsset (layer : Layer) : Bool := layer.role == .image || layer.hasImageFill

abbrev Node := Tree Layer

/-- The values of a list in the order of their first appearance. -/
def firstAppearances {α : Type} [DecidableEq α] (values : List α) : List α :=
  values.foldl (fun seen value => if value ∈ seen then seen else seen ++ [value]) []

namespace Node

/-- The first subtree, in reading order, whose layer has an id. -/
def find? (node : Node) (id : String) : Option Node := node.subtrees.find? (·.value.id = id)

def roles (node : Node) : List Role := firstAppearances (node.values.map (·.role))

def containsInteractive (node : Node) : Bool := node.values.any (·.isInteractive)

def firstText? (node : Node) : Option String := node.values.findSome? Layer.text?

/-- The ids of the layers with exported pictures, in reading order. -/
def assetIds (node : Node) : List String :=
  firstAppearances ((node.values.filter (·.bearsAsset)).map (·.id))

/-- The tree in which every layer with an id has a picture's address. -/
def patchAsset (node : Node) (id url : String) : Node :=
  node.map fun layer => if layer.id = id then { layer with assetUrl := some url } else layer

def countId (node : Node) (id : String) : Nat := node.values.countP (·.id = id)

/-- A leaf without text that is an icon, has no known role, or is an empty container that hugs its
content vertically. -/
def isDecorative (node : Node) : Bool :=
  let layer := node.value
  node.isLeaf && layer.text?.isNone &&
    match layer.role with
    | .icon | .unknown => true
    | .container =>
      match layer.dimensions.width, layer.dimensions.height with
      | .auto, .auto | .fill, .auto => true
      | _, _ => false
    | _ => false

/-- Whether a layer below the root stays. -/
def isKept (node : Node) : Bool := node.value.visible && !node.isDecorative

/-- A design without invisible and decorative layers. The root always stays, and whether a layer is
a leaf is judged before anything is left out. -/
def withoutDecoration (node : Node) : Node := node.prune isKept

end Node

/-- Where a design came from. -/
structure SourceMeta where
  fileName : String
  lastModified : String
  rootId : String
  deriving DecidableEq

/-- A design: its root with the names of the shared components it refers to. -/
structure Design where
  source : SourceMeta
  root : Node
  components : OrderedMap String String
  deriving DecidableEq

end Handoff
