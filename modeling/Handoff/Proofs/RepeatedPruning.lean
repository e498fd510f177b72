import Handoff.Component.Targets
import Handoff.Proofs.PageSections

/-! A layer as a section of its own and as one that a manifest names. A derived section has
lost its decorations before its component is made, which takes them out once more; that
makes no difference unless a layer became a decoration by losing what was inside it. -/

namespace Handoff

/-- After decorations are left out, there are none among the layers that stay. -/
def Node.IsSettled (node : Node) : Prop := node.withoutDecoration.AllBelow Node.isKept

instance (node : Node) : Decidable node.IsSettled := inferInstanceAs (Decidable (Tree.AllBelow _ _))

private theorem Node.withoutDecoration_twice {node : Node} :
    node.withoutDecoration.withoutDecoration = node.withoutDecoration ↔ node.IsSettled := Tree.prune_eq_self_iff

namespace Site

private theorem node_derivedSection {root layer : Node} {i : Nat} (place : (root.children.filter Node.isKept)[i]? = some layer) :
    ∃ item, (derivedSections root)[i]? = some item ∧ item.node = layer.withoutDecoration := by
  have nodes := congrArg (·[i]?) (derivedSections_eq root).2.2
  simp only [List.getElem?_map, place, Option.map_some] at nodes
  exact Option.map_eq_some_iff.mp nodes

private theorem node_namedSection {manifest : Manifest} {root layer : Node} {items : List Section} {j : Nat}
    {entry : Manifest.Section} (inside : layer ∈ root.subtrees) (unique : root.countId layer.value.id = 1)
    (listed : manifest.sections[j]? = some entry) (refers : entry.nodeId = layer.value.id)
    (found : sections manifest root = .ok items) :
    ∃ item, items[j]? = some item ∧ item.node = layer := by
  rcases sections_ok found with ⟨empty, -⟩ | each
  · simp [empty] at listed
  · obtain ⟨short, same⟩ := List.getElem?_eq_some_iff.mp listed
    have long : j < items.length := each.length_eq ▸ short
    have known := (namedSection_ok (each.get short long)).2
    rw [List.get_eq_getElem, same, refers, Node.find?_of_unique inside unique, Option.some_inj] at known
    exact ⟨items[j], List.getElem?_eq_getElem long, known.symm⟩

/-- A layer right below the root gives the same file as a derived section and as a section
that a manifest names, for every target, if no layer in it was emptied into a decoration; and
in no other case do both components show the same layers. -/
theorem render_derived_eq_named {manifest : Manifest} {root layer : Node} {items : List Section} {i j : Nat}
    {entry : Manifest.Section} (place : (root.children.filter Node.isKept)[i]? = some layer)
    (unique : root.countId layer.value.id = 1) (listed : manifest.sections[j]? = some entry)
    (refers : entry.nodeId = layer.value.id) (found : sections manifest root = .ok items) :
    ∃ derived named, (derivedSections root)[i]? = some derived ∧ items[j]? = some named ∧
      (derived.node.withoutDecoration = named.node.withoutDecoration ↔ layer.IsSettled) ∧
      (layer.IsSettled → ∀ (target : Target) tokens name,
        target.renderer.render tokens derived.node name = target.renderer.render tokens named.node name) := by
  have child : layer ∈ root.children := List.mem_of_mem_filter (List.mem_of_getElem? place)
  obtain ⟨derived, derivedPlace, derivedNode⟩ := node_derivedSection place
  obtain ⟨named, namedPlace, namedNode⟩ :=
    node_namedSection (Node.mem_subtrees_of_child child) unique listed refers found
  have shown : derived.node.withoutDecoration = named.node.withoutDecoration ↔ layer.IsSettled := by
    rw [derivedNode, namedNode]
    exact Node.withoutDecoration_twice
  refine ⟨derived, named, derivedPlace, namedPlace, shown, fun settled target tokens name => ?_⟩
  simp only [Component.Renderer.render, shown.mpr settled]

def featureEntry : Manifest.Section := ⟨"Feature", "2:1", none⟩

def dot : Node := .node (.bare "4:1" "dot" .icon) []

/-- An icon beside a button. -/
def settledFrame : Node := .node (.bare "2:1" "Feature" .hero) [dot, .node (.bare "3:1" "Go" .button) []]

/-- An icon alone in a wrapper. -/
def emptiedFrame : Node := .node (.bare "2:1" "Feature" .hero) [.node (.bare "3:1" "wrapper" .container) [dot]]

theorem render_derived_eq_named_settled :
    let page := pageOf [settledFrame]
    let items := [(⟨"Feature", settledFrame, .none⟩ : Section)]
    ((page.children.filter Node.isKept)[0]? = some settledFrame ∧ page.countId settledFrame.value.id = 1 ∧
      (Manifest.brief [.react] [featureEntry]).sections[0]? = some featureEntry ∧
      featureEntry.nodeId = settledFrame.value.id ∧ sections (.brief [.react] [featureEntry]) page = .ok items) ∧
    settledFrame.IsSettled ∧ ∃ derived named, (derivedSections page)[0]? = some derived ∧ items[0]? = some named ∧
      ∀ (target : Target) tokens name,
        target.renderer.render tokens derived.node name = target.renderer.render tokens named.node name := by
  intro page items
  have place : (page.children.filter Node.isKept)[0]? = some settledFrame := by decide +kernel
  have unique : page.countId settledFrame.value.id = 1 := by decide +kernel
  have listed : (Manifest.brief [.react] [featureEntry]).sections[0]? = some featureEntry := rfl
  have refers : featureEntry.nodeId = settledFrame.value.id := rfl
  have found : sections (.brief [.react] [featureEntry]) page = .ok items := by decide +kernel
  have settled : settledFrame.IsSettled := by decide +kernel
  obtain ⟨derived, named, derivedPlace, namedPlace, -, same⟩ := render_derived_eq_named place unique listed refers found
  exact ⟨⟨place, unique, listed, refers, found⟩, settled, derived, named, derivedPlace, namedPlace, same settled⟩

/-- The wrapper stays in the section that a manifest names and is lost in the derived one. -/
theorem render_derived_ne_named :
    let page := pageOf [emptiedFrame]
    page.children.filter Node.isKept = [emptiedFrame] ∧ page.countId emptiedFrame.value.id = 1 ∧
    ∃ derived named, derivedSections page = [derived] ∧ sections (.brief [.react] [featureEntry]) page = .ok [named] ∧
      featureEntry.nodeId = emptiedFrame.value.id ∧
      Target.react.renderer.render none derived.node "Feature" ≠ Target.react.renderer.render none named.node "Feature" := by
  intro page
  refine ⟨by decide +kernel, by decide +kernel, ⟨"Feature", emptiedFrame.withoutDecoration, .none⟩,
    ⟨"Feature", emptiedFrame, .none⟩, by decide +kernel, by decide +kernel, rfl, by decide +kernel⟩

end Site

end Handoff
