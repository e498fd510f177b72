import Handoff.Design.Node
import Handoff.Interpretation.Role
import Handoff.Interpretation.Style

/-!
Documents read as designs. Each shape becomes one layer, which depends on that shape alone; hidden
shapes below the root are left out together with everything inside them.
-/
namespace Handoff.Interpretation

def layerOf (shape : Document.Shape) : Layer :=
  let role := roleOf shape
  { id := shape.id
    name := shape.name
    role
    visible := shape.visible
    fills := fillsOf shape
    borders := bordersOf shape
    shadows := shadowsOf shape
    radii := radiiOf shape
    opacity := Binary64.clamp 0 1 (shape.opacity.getD 1)
    clipContent := shape.clipsContent.getD false
    layout := layoutOf shape
    dimensions := dimensionsOf shape
    textContent := shape.characters
    textStyle := shape.style.map textStyleOf
    assetUrl := none
    isInteractive := role.isInteractive
    interaction := role.interaction }

def nodeOf (shape : Document.Node) : Node := (shape.prune (·.value.visible)).map layerOf

/-- A document has no entry for the node that a design was asked for. -/
structure MissingRoot where
  rootId : String
  deriving DecidableEq

def MissingRoot.message (error : MissingRoot) : String :=
  "node '" ++ error.rootId ++ "' not found in design document"

def designOf (file : Document.File) (rootId : String) : Except MissingRoot Design :=
  match file.node? rootId with
  | some entry => .ok
      { source := ⟨file.name, file.lastModified, rootId⟩
        root := nodeOf entry.document
        components :=
          .ofList (entry.components.entries.map fun (id, component) => (id, component.name)) }
  | none => .error ⟨rootId⟩

end Handoff.Interpretation
