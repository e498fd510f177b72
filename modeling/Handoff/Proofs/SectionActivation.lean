import Handoff.Proofs.InterpretedDesigns
import Handoff.Proofs.RepeatedPruning
import Handoff.Proofs.SiteFiles

/-! Which sections of a page come alive. A layer that answers a reader is never a decoration
and has only layers above it that stay, so that leaving out decorations, once or again,
keeps it. A derived section is mounted live exactly when its component shows such a layer. -/

namespace Handoff

namespace Node

/-- Somewhere in a design, a layer has a role that responds to a reader. -/
def IsLive (node : Node) : Prop := ∃ layer ∈ node.values, layer.role.isInteractive = true

instance (node : Node) : Decidable node.IsLive := inferInstanceAs (Decidable (∃ layer ∈ node.values, _))

theorem isLive_node {layer : Layer} {children : List Node} :
    IsLive (.node layer children) ↔ layer.role.isInteractive = true ∨ ∃ child ∈ children, child.IsLive := by
  rw [IsLive, Tree.values_node, List.exists_mem_cons_iff]
  refine or_congr_right ⟨?_, ?_⟩
  · rintro ⟨inner, below, live⟩
    obtain ⟨child, member, inside⟩ := List.mem_flatMap.mp below
    exact ⟨child, member, inner, inside, live⟩
  · rintro ⟨child, member, inner, inside, live⟩
    exact ⟨inner, List.mem_flatMap.mpr ⟨child, member, inside⟩, live⟩

private theorem not_isDecorative_of_isLive {node : Node} (live : node.IsLive) : node.isDecorative = false := by
  cases node with
  | node layer children =>
    rcases isLive_node.mp live with role | ⟨child, member, -⟩
    · -- no role of a decoration responds to a reader
      cases known : layer.role <;> simp_all [isDecorative, Role.isInteractive, Tree.value]
    · have inner : Tree.isLeaf (.node layer children) = false := List.isEmpty_eq_false_iff.mpr (List.ne_nil_of_mem member)
      rw [isDecorative, inner, Bool.false_and, Bool.false_and]

/-- What a design made of a document keeps when parts of it are left out: its layers are
marked as their roles are, and can be seen if they are below the root. -/
structure IsMarked (node : Node) : Prop where
  marked : ∀ layer ∈ node.values, layer.isInteractive = layer.role.isInteractive
  visible : node.AllBelow (·.value.visible)

theorem isMarked_node {layer : Layer} {children : List Node} :
    IsMarked (.node layer children) ↔ layer.isInteractive = layer.role.isInteractive ∧
      ∀ child ∈ children, child.value.visible = true ∧ child.IsMarked := by
  constructor
  · rintro ⟨marked, visible⟩
    rw [Tree.values_node, List.forall_mem_cons, List.forall_mem_flatMap] at marked
    rw [Tree.allBelow_node] at visible
    exact ⟨marked.1, fun child member => ⟨(visible child member).1, marked.2 child member, (visible child member).2⟩⟩
  · rintro ⟨marked, children⟩
    constructor
    · rw [Tree.values_node, List.forall_mem_cons, List.forall_mem_flatMap]
      exact ⟨marked, fun child member => (children child member).2.marked⟩
    · exact Tree.allBelow_node.mpr fun child member => ⟨(children child member).1, (children child member).2.visible⟩

private theorem IsMarked.withoutDecoration {node : Node} (marked : node.IsMarked) : node.withoutDecoration.IsMarked where
  marked := fun layer member => marked.marked layer (Tree.mem_values_of_mem_prune member)
  visible := Tree.AllBelow.prune marked.visible

private theorem IsMarked.containsInteractive_iff {node : Node} (marked : node.IsMarked) :
    node.containsInteractive = true ↔ node.IsLive := by
  rw [containsInteractive, List.any_eq_true]
  exact exists_congr fun layer => and_congr_right fun member => by rw [marked.marked layer member]

private theorem IsMarked.child {node child : Node} (marked : node.IsMarked) (member : child ∈ node.children) :
    child.IsMarked := by
  cases node with
  | node layer children => exact ((isMarked_node.mp marked).2 child member).2

/-- Without its decorations, a design responds to a reader as it did before. -/
theorem IsMarked.isLive_withoutDecoration {node : Node} (marked : node.IsMarked) :
    node.withoutDecoration.IsLive ↔ node.IsLive := by
  induction node using Tree.childInduction with
  | node layer children ih =>
    obtain ⟨-, below⟩ := isMarked_node.mp marked
    rw [Node.withoutDecoration, Tree.prune_node, isLive_node, isLive_node]
    refine or_congr_right ⟨?_, ?_⟩
    · rintro ⟨_, member, live⟩
      obtain ⟨child, kept, rfl⟩ := List.mem_map.mp member
      have listed := List.mem_of_mem_filter kept
      exact ⟨child, listed, (ih child listed (below child listed).2).mp live⟩
    · rintro ⟨child, listed, live⟩
      obtain ⟨visible, marked⟩ := below child listed
      -- the child is judged as it was, with what it lives by still inside it
      have kept : child.isKept = true := by rw [isKept, visible, not_isDecorative_of_isLive live]; rfl
      exact ⟨_, List.mem_map_of_mem (List.mem_filter.mpr ⟨listed, kept⟩), (ih child listed marked).mpr live⟩

end Node

private theorem Interpretation.isMarked_nodeOf (document : Document.Node) : (nodeOf document).IsMarked := by
  induction document using Tree.childInduction with
  | node shape children ih =>
    rw [nodeOf_node, Node.isMarked_node, List.forall_mem_map]
    refine ⟨rfl, fun child kept => ?_⟩
    obtain ⟨listed, visible⟩ := List.mem_filter.mp kept
    refine ⟨?_, ih child listed⟩
    rw [value_nodeOf]
    exact visible

namespace Site
open Naming CodeBuilder

/-- What the component of a section shows. -/
def Section.shown (item : Section) : Node := item.node.withoutDecoration

/-- A section made of a frame comes to a page: it and what its component shows respond to a
reader as the frame does, and it is mounted live if they do, and dead otherwise. -/
structure Mounted (manifest : Manifest) (root : Path) (frame : Node) (item : Section) (line : String) : Prop where
  node : item.node = frame.withoutDecoration
  file : ∀ target, (componentFile manifest root target item).content =
    target.renderer.wrap item.name (target.renderer.style.print (target.renderer.markup (some manifest.tokenMap) item.shown))
      (target.renderer.imports item.shown)
  derived : item.node.IsLive ↔ frame.IsLive
  shown : item.shown.IsLive ↔ frame.IsLive
  line : line = indented 4 (if item.shown.IsLive then "<" ++ item.name ++ " client:load />" else "<" ++ item.name ++ " />")

private theorem activation_derivedSections {root : Node} {item : Section} (member : item ∈ derivedSections root) :
    item.activation = Page.defaultActivation item.node := by
  rw [derivedSections, ← List.map_uncurry_zip_eq_zipWith] at member
  obtain ⟨⟨name, node⟩, -, rfl⟩ := List.mem_map.mp member
  rfl

private theorem frame_of_derived {root : Node} {item : Section} (member : item ∈ derivedSections root) :
    ∃ frame : Node, frame ∈ root.children ∧ item.node = frame.withoutDecoration := by
  have listed : item.node ∈ (derivedSections root).map Section.node := List.mem_map_of_mem member
  rw [(derivedSections_eq root).2.2] at listed
  obtain ⟨frame, kept, same⟩ := List.mem_map.mp listed
  exact ⟨frame, List.mem_of_mem_filter kept, same.symm⟩

private theorem element_defaultActivation (name : String) {target : Target} (known : target ≠ .angular) (node : Node) :
    Page.Mount.element ⟨name, target, Page.defaultActivation node⟩ =
      if node.containsInteractive then "<" ++ name ++ " client:load />" else "<" ++ name ++ " />" := by
  have spelling : Page.Mount.element ⟨name, target, Page.defaultActivation node⟩ =
      "<" ++ name ++ (String.join ((Page.defaultActivation node).directive?.toList.map (" " ++ ·)) ++ " />") := by
    rw [← String.append_assoc]
    cases target with
    | angular => exact absurd rfl known
    | react | vue => rfl
  rw [spelling, Page.defaultActivation]
  split <;> rfl

private theorem content_componentFile (manifest : Manifest) (root : Path) (target : Target) (item : Section) :
    (componentFile manifest root target item).content =
      target.renderer.wrap item.name (target.renderer.style.print (target.renderer.markup (some manifest.tokenMap) item.shown))
        (target.renderer.imports item.shown) := by
  rw [componentFile, Component.Renderer.render]
  rfl

private theorem getElem?_mountLines (manifest : Manifest) {items : List Section} {item : Section} {i : Nat}
    (plain : ∀ item ∈ items, IsPlain item.name) (placed : items[i]? = some item) (design : Node) (root : Path) :
    (Page.mountLines (pageFile manifest design items root).content)[i]? =
      some (indented 4 (Page.Mount.element ⟨item.name, pageTarget manifest, item.activation⟩)) := by
  have mounted : mounts manifest items ≠ [] := by
    rw [mounts, Ne, List.map_eq_nil_iff]
    exact List.ne_nil_of_mem (List.mem_of_getElem? placed)
  rw [pageFile, Page.mountLines_text design _ mounted (named_mounts plain), mounts, List.map_map, List.getElem?_map, placed]
  rfl

/-- Every section derived from a design that is made of a document is mounted live if what
its component shows responds to a reader, and dead otherwise, on a page for React or Vue. -/
theorem mounted_derived {file : Document.File} {rootId : String} {design : Design} {manifest : Manifest}
    {items : List Section} {item : Section} {i : Nat} (made : Interpretation.designOf file rootId = .ok design)
    (derived : manifest.sections = []) (found : sections manifest design.root = .ok items)
    (chosen : pageTarget manifest ≠ .angular) (placed : items[i]? = some item) (root : Path) :
    ∃ frame line, frame ∈ design.root.children ∧
      (Page.mountLines (pageFile manifest design.root items root).content)[i]? = some line ∧
      Mounted manifest root frame item line := by
  obtain ⟨entry, -, read⟩ := Interpretation.designOf_ok made
  have marked : design.root.IsMarked := read ▸ Interpretation.isMarked_nodeOf entry.document
  have same : items = derivedSections design.root := by
    rw [sections, derived] at found
    exact (Except.ok.inj found).symm
  have member : item ∈ derivedSections design.root := same ▸ List.mem_of_getElem? placed
  have plain : ∀ item ∈ items, IsPlain item.name := same ▸ (derivedSections_eq design.root).2.1
  obtain ⟨frame, child, node⟩ := frame_of_derived member
  have frameMarked : frame.IsMarked := marked.child child
  have once : item.node.IsLive ↔ frame.IsLive := node ▸ frameMarked.isLive_withoutDecoration
  have itemMarked : item.node.IsMarked := node ▸ frameMarked.withoutDecoration
  have twice : item.shown.IsLive ↔ item.node.IsLive := itemMarked.isLive_withoutDecoration
  have line := getElem?_mountLines manifest plain placed design.root root
  refine ⟨frame, _, child, line, node, fun target => content_componentFile manifest root target item, once,
    twice.trans once, ?_⟩
  rw [activation_derivedSections member, element_defaultActivation _ chosen]
  exact congrArg (indented 4) (if_congr (itemMarked.containsInteractive_iff.trans twice.symm) rfl rfl)

/-- A shape that says nothing but what it is called and what kind it is of. -/
def shapeOf (id name : String) (kind : Document.Kind) : Document.Shape where
  id := id
  name := name
  kind := kind
  visible := true
  absoluteBoundingBox := none
  fills := []
  strokes := []
  strokeWeight := none
  strokeDashes := []
  effects := []
  opacity := none
  cornerRadius := none
  rectangleCornerRadii := none
  clipsContent := none
  layoutMode := none
  primaryAxisAlignItems := none
  counterAxisAlignItems := none
  layoutWrap := none
  paddingTop := none
  paddingRight := none
  paddingBottom := none
  paddingLeft := none
  itemSpacing := none
  layoutSizingHorizontal := none
  layoutSizingVertical := none
  minWidth := none
  maxWidth := none
  minHeight := none
  maxHeight := none
  characters := none
  style := none
  componentId := none

/-- A page of a section with a button in a group, and of one with an icon only. -/
def twoFrames : Document.Node :=
  .node (shapeOf "0:1" "Page" .canvas)
    [.node (shapeOf "1:1" "Hero" .frame) [.node (shapeOf "1:2" "row" .group) [.node (shapeOf "1:3" "Buy button" .frame) []]],
      .node (shapeOf "2:1" "Footer" .frame) [.node (shapeOf "2:2" "icon" .vector) []]]

def twoFramesFile : Document.File where
  name := "Shop"
  lastModified := ""
  thumbnailUrl := none
  version := none
  nodes := .ofList [("0:1", some ⟨twoFrames, .empty, .empty⟩)]

theorem mounted_derived_sample :
    ∃ design items hero footer, Interpretation.designOf twoFramesFile "0:1" = .ok design ∧
      (Manifest.brief [.vue] []).sections = [] ∧ sections (.brief [.vue] []) design.root = .ok items ∧
      pageTarget (.brief [.vue] []) ≠ .angular ∧ items[0]? = some hero ∧ items[1]? = some footer ∧
      hero.shown.IsLive ∧ ¬footer.shown.IsLive ∧
      (∃ frame line, frame ∈ design.root.children ∧
        (Page.mountLines (pageFile (.brief [.vue] []) design.root items .current).content)[0]? = some line ∧
        Mounted (.brief [.vue] []) .current frame hero line) ∧
      ∃ frame line, frame ∈ design.root.children ∧
        (Page.mountLines (pageFile (.brief [.vue] []) design.root items .current).content)[1]? = some line ∧
        Mounted (.brief [.vue] []) .current frame footer line := by
  let design : Design := ⟨⟨"Shop", "", "0:1"⟩, Interpretation.nodeOf twoFrames, .ofList []⟩
  have made : Interpretation.designOf twoFramesFile "0:1" = .ok design := by decide +kernel
  have chosen : pageTarget (.brief [.vue] []) ≠ .angular := by decide
  let items := derivedSections design.root
  have found : sections (.brief [.vue] []) design.root = .ok items := rfl
  obtain ⟨hero, first, live⟩ : ∃ hero, items[0]? = some hero ∧ hero.shown.IsLive := by decide +kernel
  obtain ⟨footer, second, dead⟩ : ∃ footer, items[1]? = some footer ∧ ¬footer.shown.IsLive := by decide +kernel
  exact ⟨design, items, hero, footer, made, rfl, found, chosen, first, second, live, dead,
    mounted_derived made rfl found chosen first .current, mounted_derived made rfl found chosen second .current⟩

end Site

end Handoff
