import Handoff.Proofs.InterpretedDesigns
import Handoff.Proofs.OrderedMaps
import Handoff.Proofs.TreePlaces

/-! A design shows what can be seen of a document. Hidden shapes are gone with everything
inside them, the root apart; what stays keeps its order and its parent, and each layer is
made of one shape alone. Only a document that lacks what is asked for makes no design. -/

namespace Handoff.Interpretation

/-- A layer is about a shape: what the two have in common, and that the rest of the layer is
made of nothing but the shape. -/
structure Portrays (layer : Layer) (shape : Document.Shape) : Prop where
  id : layer.id = shape.id
  name : layer.name = shape.name
  text : layer.textContent = shape.characters
  visible : layer.visible = shape.visible
  own : layer = layerOf shape

private theorem portrays_layerOf (shape : Document.Shape) : Portrays (layerOf shape) shape := ⟨rfl, rfl, rfl, rfl, rfl⟩

/-- A root shows a document: its layers stand for the shapes that are visible, and have only
visible shapes between themselves and the root, each in one place. -/
structure Shows (document : Document.Node) (root : Node) (source : Place → Place) : Prop where
  bijective : Set.BijOn source root.places (document.keptPlaces (·.value.visible))
  ordered : StrictMonoOn source root.places
  top : source [] = []
  parents : ∀ place i, place ++ [i] ∈ root.places → ∃ j, source (place ++ [i]) = source place ++ [j]
  layers : ∀ place ∈ root.places, ∃ node shape, root.at? place = some node ∧
    document.at? (source place) = some shape ∧ Portrays node.value shape.value

private theorem places_nodeOf (document : Document.Node) :
    (nodeOf document).places = (document.prune (·.value.visible)).places := by
  ext place
  simp only [Tree.places, Set.mem_ofPred_eq, nodeOf, Tree.at?_map, Option.isSome_map]

private theorem at?_nodeOf (document : Document.Node) (place : Place) :
    (nodeOf document).at? place = (document.at? (document.origin (·.value.visible) place)).map nodeOf := by
  rw [nodeOf, Tree.at?_map, Tree.at?_prune, Option.map_map]
  rfl

private theorem shows_nodeOf (document : Document.Node) :
    Shows document (nodeOf document) (document.origin (·.value.visible)) where
  bijective := places_nodeOf document ▸ Tree.bijOn_origin _ document
  ordered := (Tree.strictMono_origin _ document).strictMonoOn _
  top := rfl
  parents := fun place i _ => Tree.origin_concat _ document place i
  layers := by
    intro place present
    obtain ⟨node, found⟩ := Option.isSome_iff_exists.mp present
    have stood := found
    rw [at?_nodeOf] at stood
    obtain ⟨shape, there, rfl⟩ := Option.map_eq_some_iff.mp stood
    exact ⟨_, shape, found, there, value_nodeOf shape ▸ portrays_layerOf shape.value⟩

private theorem components_designOf (components : OrderedMap String Document.ComponentMeta) :
    (OrderedMap.ofList (components.entries.map fun (id, component) => (id, component.name))).entries =
      components.entries.map fun (id, component) => (id, component.name) := by
  refine (OrderedMap.entries_foldl_insert _ .empty ?_).trans (List.nil_append _)
  change (([] ++ components.entries.map _).map Prod.fst).Nodup
  rw [List.nil_append, List.map_map]
  exact components.distinct

/-- A document that has what is asked for makes a design, which shows its visible shapes and
names its components; without an entry there is no design, and nothing else is an error. -/
theorem designOf_shows (file : Document.File) (rootId : String) :
    match file.nodes.get? rootId with
    | some (some entry) =>
      ∃ design source, designOf file rootId = .ok design ∧ Shows entry.document design.root source ∧
        design.source = ⟨file.name, file.lastModified, rootId⟩ ∧
        design.components.entries = entry.components.entries.map fun (id, component) => (id, component.name)
    | some none | none => designOf file rootId = .error ⟨rootId⟩ := by
  rw [designOf, Document.File.node?]
  cases file.nodes.get? rootId with
  | none => rfl
  | some found =>
    cases found with
    | none => rfl
    | some entry => exact ⟨_, _, rfl, shows_nodeOf entry.document, rfl, components_designOf entry.components⟩

end Handoff.Interpretation
