import Handoff.Proofs.InterpretedLayers

/-! Whatever document is received, the design made of it can be saved and loaded again. A
document's shapes stand two levels deeper in its text than the layers made of them in
theirs, which is the room that a layer may need and its shape does not. -/

namespace Handoff.Interpretation
open Json

theorem nodeOf_node (shape : Document.Shape) (children : List Document.Node) :
    nodeOf (.node shape children) = .node (layerOf shape) ((children.filter (·.value.visible)).map nodeOf) := by
  rw [nodeOf, Tree.prune, Tree.map, Tree.mapAll_eq_map, Tree.pruneAll_eq_map, List.map_map]
  rfl

theorem value_nodeOf (document : Document.Node) : (nodeOf document).value = layerOf document.value := by
  cases document with
  | node shape children => rfl

/-- What is promised of a document: its design can be saved with two levels more. -/
def FitsNode (bound : Nat) (node : Document.Node) : Prop := Fits (nodeOf node).numbers (nodeOf node).toJson (bound + 2)

private theorem fits_node {shape : Document.Shape} {children : List Document.Node} {bound : Nat} (sound : shape.Sound bound)
    (inside : ∀ child ∈ children, 1 ≤ bound ∧ FitsNode (bound - 1) child) :
    FitsNode (bound + 1) (.node shape children) := by
  obtain ⟨ofLayer, inLayer⟩ := fits_layerOf sound
  have visible : ∀ node ∈ (children.filter (·.value.visible)).map nodeOf, 1 ≤ bound ∧
    Fits node.numbers node.toJson (bound + 1) := by
    intro node member
    obtain ⟨child, kept, rfl⟩ := List.mem_map.mp member
    obtain ⟨room, fits⟩ := inside child (List.mem_of_mem_filter kept)
    have less : bound - 1 + 2 = bound + 1 := by omega
    exact ⟨room, less ▸ fits⟩
  rw [FitsNode, nodeOf_node, Fits, Node.allFinite_node, Node.toJson_node, depth_record_le]
  refine ⟨⟨ofLayer, fun node member => (visible node member).2.1⟩, by omega, ?_⟩
  rw [Layer.membersWith, List.forall_mem_append, forall_mem_listMember]
  refine ⟨inLayer, fun _ => ?_⟩
  exact (Fits.array fun node member => (visible node member).2).2

/-- The room that a document leaves is found at its shapes, from the leaves up. -/
theorem promises_decodeNested (nesting : Nat) : Promises (Document.Node.decodeNested nesting) FitsNode := by
  induction nesting with
  | zero => exact fun read _ => nomatch read
  | succ nesting ih =>
    refine Promises.record (fun _ _ => rfl) ?_
    intro record inner node within read
    simp only [Option.bind_eq_bind, Option.bind_eq_some_iff] at read
    obtain ⟨shape, ofShape, children, ofChildren, made⟩ := read
    obtain rfl := Option.some.inj made
    exact fits_node (Document.Shape.sound_ofRecord within ofShape) (ih.listed within ofChildren)

/-- Every shape of a document stands two levels inside its parent, in the list of the parent's children. -/
theorem inside_of_child {nesting depth : Nat} {json : Json} {shape : Document.Shape} {children : List Document.Node}
    (read : Document.Node.decodeNested (nesting + 1) depth json = some (.node shape children)) :
    ∀ child ∈ children, ReadInside (Document.Node.decodeNested nesting) 2 depth json child := by
  intro child member
  rw [Document.Node.decodeNested] at read
  simp only [Option.bind_eq_bind, Option.bind_eq_some_iff] at read
  obtain ⟨record, opened, given, -, inner, ofChildren, made⟩ := read
  obtain ⟨rfl, rfl⟩ := Tree.node.inj (Option.some.inj made)
  rcases Record.inside_of_defaulted opened ofChildren with rfl | listed
  · cases member
  · exact listed.trans fun read => inside_of_list read child member

private theorem inside_of_below {nesting depth generations : Nat} {json : Json} {node inner : Document.Node}
    (read : Document.Node.decodeNested nesting depth json = some node) (below : Tree.Below generations node inner) :
    ReadInside (Document.Node.decodeNested (nesting - generations)) (2 * generations) depth json inner := by
  induction below generalizing nesting depth json with
  | self node => exact ⟨depth, json, rfl, .self json, read⟩
  | child member below ih =>
    cases nesting with
    | zero => cases read
    | succ nesting =>
      rw [Nat.add_sub_add_right]
      exact (inside_of_child read _ member).trans ih

/-- The entry of a requested node is two levels inside a file, and its document one more. -/
theorem inside_of_node? {depth : Nat} {json : Json} {file : Document.File} {id : String} {entry : Document.Entry}
    (read : Document.File.decode depth json = some file) (found : file.node? id = some entry) :
    ReadInside Document.Node.decode 3 depth json entry.document := by
  have member : (id, some entry) ∈ file.nodes.entries := by
    obtain ⟨value, first, same⟩ := Option.map_eq_some_iff.mp (Option.join_eq_some_iff.mp found)
    have key : value.1 = id := by simpa using List.find?_some first
    have whole : value = (id, some entry) := Prod.ext key same
    exact whole ▸ List.mem_of_find?_eq_some first
  have inEntry : ∀ {room part}, Document.Entry.decode room part = some entry →
    ReadInside Document.Node.decode 1 room part entry.document := by
    intro room part read
    simp only [Document.Entry.decode, Option.bind_eq_bind, Option.bind_eq_some_iff] at read
    obtain ⟨record, opened, document, ofDocument, components, -, styles, -, made⟩ := read
    obtain rfl := Option.some.inj made
    exact Record.inside_of_required opened ofDocument
  simp only [Document.File.decode, Option.bind_eq_bind, Option.bind_eq_some_iff] at read
  obtain ⟨record, opened, name, -, lastModified, -, thumbnailUrl, -, version, -, nodes, ofNodes, made⟩ := read
  obtain rfl := Option.some.inj made
  rcases Record.inside_of_defaulted opened ofNodes with rfl | listed
  · cases member
  · exact (listed.trans fun read => inside_of_map read _ member).trans fun read => inEntry (inside_of_nullable read)

private theorem nested_toJson {generations : Nat} {node inner : Node} (below : Tree.Below generations node inner) :
    Nested (2 * generations) node.toJson inner.toJson := by
  induction below with
  | self node => exact .self _
  | child member below ih =>
    rw [Node.toJson_node]
    refine .part (.record (List.mem_append_right _ (mem_listMember.mpr ⟨List.ne_nil_of_mem member, rfl⟩))) ?_
    exact .part (.item (List.mem_map_of_mem member)) ih

private theorem below_nodeOf {generations : Nat} {document : Document.Node} {node : Node}
    (below : Tree.Below generations (nodeOf document) node) :
    ∃ shape, Tree.Below generations document shape ∧ node = nodeOf shape := by
  induction generations generalizing document with
  | zero =>
    cases below with
    | self => exact ⟨document, .self document, rfl⟩
  | succ generations ih =>
    cases document with
    | node shape children =>
      rw [nodeOf_node] at below
      cases below with
      | child member below =>
        obtain ⟨child, kept, rfl⟩ := List.mem_map.mp member
        obtain ⟨inner, deeper, same⟩ := ih below
        exact ⟨inner, .child (List.mem_of_mem_filter kept) deeper, same⟩

theorem mem_values_nodeOf {document : Document.Node} {layer : Layer} (member : layer ∈ (nodeOf document).values) :
    ∃ shape ∈ document.values, layerOf shape = layer := by
  rw [nodeOf, Tree.values_map] at member
  obtain ⟨shape, left, same⟩ := List.mem_map.mp member
  exact ⟨shape, Tree.mem_values_of_mem_prune left, same⟩

/-- Where the nodes of a document and of its design stand: a shape on the fourth level of its text and on two
levels more for each generation, and the layer made of it two levels higher in the text of the design. -/
structure Aligned (source : Json) (document : Document.Node) (design : Design) : Prop where
  shapes : ∀ {generations shape}, Tree.Below generations document shape →
    ∃ nesting, ReadInside (Document.Node.decodeNested nesting) (2 * generations + 3) depthLimit source shape
  layers : ∀ {generations} {node : Node}, Tree.Below generations design.root node →
    Nested (2 * generations + 1) design.toJson node.toJson ∧
      ∃ shape, Tree.Below generations document shape ∧ node = nodeOf shape

theorem designOf_ok {file : Document.File} {rootId : String} {design : Design}
    (made : designOf file rootId = .ok design) :
    ∃ entry, file.node? rootId = some entry ∧ design.root = nodeOf entry.document := by
  unfold designOf at made
  split at made
  next entry given =>
    obtain rfl := Except.ok.inj made
    exact ⟨entry, given, rfl⟩
  next => cases made

private theorem aligned_designOf {source : Json} {document : Document.Node} {design : Design}
    (read : ReadInside Document.Node.decode 3 depthLimit source document) (root : design.root = nodeOf document) :
    Aligned source document design := by
  refine ⟨fun below => ?_, fun below => ⟨?_, below_nodeOf (root ▸ below)⟩⟩
  · obtain ⟨room, part, rest, nested, found⟩ := read
    obtain ⟨left, inner, rfl, deeper, shape⟩ := inside_of_below found below
    exact ⟨_, left, inner, by rw [rest, Nat.add_assoc], nested.trans deeper, shape⟩
  · exact .part (.record (List.mem_cons_of_mem _ List.mem_cons_self)) (nested_toJson below)

private theorem depth_design_le {design : Design} {bound : Nat} (deep : 2 ≤ bound) (root : design.root.toJson.depth ≤ bound - 1) :
    design.toJson.depth ≤ bound := by
  have source : design.source.toJson.depth ≤ bound - 1 := Nat.le_sub_of_add_le deep
  have components : (Json.ofMap .text design.components).depth ≤ bound - 1 := by
    refine depth_record_le.mpr ⟨Nat.le_sub_of_add_le deep, ?_⟩
    rw [List.forall_mem_map]
    exact fun _ _ => Nat.zero_le _
  rw [Design.toJson, depth_record_le]
  simp only [List.forall_mem_cons]
  exact ⟨Nat.le_of_succ_le deep, source, root, components, List.forall_mem_nil _⟩

/-- A design made of any document that was received can be saved and loaded again: its numbers are finite, and
its text nests no deeper than the text of the document. -/
theorem storable_designOf {s : String} {source : Json} {file : Document.File} {rootId : String} {design : Design}
    (parsed : parse s = some source) (received : decodeText Document.File.decode s = some file)
    (made : designOf file rootId = .ok design) :
    AllFinite design.numbers
      ∧ (∃ saved, parse design.write = some saved ∧ saved.depth ≤ source.depth)
      ∧ (∃ entry, file.node? rootId = some entry ∧ Aligned source entry.document design)
      ∧ Design.read design.write = some design := by
  obtain ⟨entry, given, root⟩ := designOf_ok made
  rw [decodeText, parsed] at received
  have inside := inside_of_node? received given
  have promises : Promises Document.Node.decode FitsNode := fun read room => promises_decodeNested _ read room
  obtain ⟨room, finite, deep⟩ := promises.inside inside (Nat.le_refl _)
  rw [← root] at finite deep
  have bound : design.toJson.depth ≤ min depthLimit source.depth := depth_design_le (by omega) (by omega)
  have saved : parse design.write = some design.toJson.written := parse_pretty design.toJson
  have shallow : design.toJson.written.depth ≤ source.depth :=
    depth_written design.toJson ▸ Nat.le_trans bound (Nat.min_le_right _ _)
  have read := Design.read_write_of_finite finite (Nat.le_trans bound (Nat.min_le_left _ _))
  exact ⟨finite, ⟨_, saved, shallow⟩, ⟨entry, given, aligned_designOf inside root⟩, read⟩

def sampleShape : Nat → Json
  | 0 => .record [("id", .text "1:3"), ("type", .text "FRAME")]
  | nesting + 1 => .record [("id", .text "1:2"), ("type", .text "FRAME"), ("children", .array [sampleShape nesting])]

def sampleSource : Json := .record [("nodes", .record [("1:2", .record [("document", sampleShape 61)])])]

/-- A chain of 62 frames is received, and its design can be saved and loaded again. -/
theorem storable_designOf_sample :
    ∃ file design, parse sampleSource.pretty = some sampleSource.written
      ∧ decodeText Document.File.decode sampleSource.pretty = some file
      ∧ designOf file "1:2" = .ok design
      ∧ AllFinite design.numbers
      ∧ (∃ saved, parse design.write = some saved ∧ saved.depth ≤ sampleSource.written.depth)
      ∧ (∃ entry, file.node? "1:2" = some entry ∧ Aligned sampleSource.written entry.document design)
      ∧ Design.read design.write = some design := by
  have parsed := parse_pretty sampleSource
  have found : ((decodeText Document.File.decode sampleSource.pretty).bind (·.node? "1:2")).isSome = true := by
    rw [decodeText, parsed]
    decide +kernel
  obtain ⟨entry, present⟩ := Option.isSome_iff_exists.mp found
  obtain ⟨file, received, given⟩ := Option.bind_eq_some_iff.mp present
  obtain ⟨design, made⟩ : ∃ design, designOf file "1:2" = .ok design := by
    rw [designOf, given]
    exact ⟨_, rfl⟩
  exact ⟨file, design, parsed, received, made, storable_designOf parsed received made⟩

end Handoff.Interpretation
