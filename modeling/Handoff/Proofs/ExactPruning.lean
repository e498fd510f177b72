import Handoff.Component.Targets
import Handoff.Proofs.RepeatedPruning
import Handoff.Proofs.TreePlaces

/-! What pruning leaves of a design: its root, and below it each layer that stays together with
every layer above it, where it stood among the others and with all it had but its children. A
layer that would not stay may be put below any other that has children, or below the root, and
no file shows a difference. -/

namespace Handoff

namespace Tree

variable {α : Type} {keep : Tree α → Bool}

/-- The tree with another among the children of the node at a place, before the child with a
number, or last if the number is that of the children. -/
def insertAt : Tree α → Place → Nat → Tree α → Tree α
  | .node value children, [], i, extra => .node value (children.insertIdx i extra)
  | .node value children, k :: place, i, extra => .node value (children.modify k fun child => child.insertAt place i extra)

private theorem filter_insertIdx {extra : Tree α} (dropped : keep extra = false) (children : List (Tree α)) (i : Nat) :
    (children.insertIdx i extra).filter keep = children.filter keep := by
  have gone : ¬keep extra = true := by simp [dropped]
  induction children generalizing i with
  | nil =>
    cases i with
    | zero => exact List.filter_cons_of_neg gone
    | succ i => rfl
  | cons first rest ih =>
    cases i with
    | zero => exact List.filter_cons_of_neg gone
    | succ i => rw [List.insertIdx_succ_cons, List.filter_cons, List.filter_cons, ih]

private theorem pruneAll_modify {f : Tree α → Tree α} {child : Tree α} {children : List (Tree α)} {k : Nat}
    (found : children[k]? = some child) (test : keep (f child) = keep child) (left : prune keep (f child) = prune keep child) :
    pruneAll keep (children.modify k f) = pruneAll keep children := by
  induction children generalizing k with
  | nil => cases found
  | cons first rest ih =>
    cases k with
    | zero =>
      obtain rfl : first = child := Option.some.inj found
      rw [List.modify_zero_cons, pruneAll, pruneAll, test, left]
    | succ k => rw [List.modify_succ_cons, pruneAll, pruneAll, ih found]

private theorem value_insertAt (t : Tree α) (place : Place) (i : Nat) (extra : Tree α) :
    (t.insertAt place i extra).value = t.value := by
  cases t
  cases place <;> rfl

/-- A node that has children has some still, and the nodes on the way to it have theirs. -/
theorem isLeaf_insertAt {t parent : Tree α} {place : Place} (found : t.at? place = some parent)
    (inner : parent.isLeaf = false) (i : Nat) (extra : Tree α) : (t.insertAt place i extra).isLeaf = t.isLeaf := by
  obtain ⟨value, children⟩ := t
  cases place with
  | nil =>
    obtain rfl : node value children = parent := Option.some.inj found
    refine Eq.trans ?_ inner.symm
    have more : children.length ≤ (children.insertIdx i extra).length := List.length_le_length_insertIdx
    rw [isLeaf, List.isEmpty_eq_false_iff, ← List.length_pos_iff] at inner ⊢
    exact inner.trans_le more
  | cons k place =>
    rw [Bool.eq_iff_iff, isLeaf, isLeaf, List.isEmpty_iff, List.isEmpty_iff]
    exact List.modify_eq_nil_iff

/-- Where the test of a node reads nothing but its value and whether it has children, what is
pruned anyhow may be put below any node that has children, and below the root. -/
theorem prune_insertAt {extra t : Tree α} {place : Place} (dropped : keep extra = false)
    (reads : ∀ a b : Tree α, a.value = b.value → a.isLeaf = b.isLeaf → keep a = keep b)
    (inner : place = [] ∨ ∃ parent, t.at? place = some parent ∧ parent.isLeaf = false) (i : Nat) :
    prune keep (t.insertAt place i extra) = prune keep t := by
  induction place generalizing t with
  | nil =>
    cases t with
    | node value children => rw [insertAt, prune_node, prune_node, filter_insertIdx dropped]
  | cons k place ih =>
    obtain ⟨parent, found, family⟩ := inner.resolve_left (List.cons_ne_nil _ _)
    obtain ⟨child, there, below⟩ := Option.bind_eq_some_iff.mp found
    cases t with
    | node value children =>
      have test := reads _ child (value_insertAt child place i extra) (isLeaf_insertAt below family i extra)
      have left := ih (.inr ⟨parent, below, family⟩)
      rw [insertAt, prune, prune]
      exact congrArg (node value) (pruneAll_modify there test left)

end Tree

namespace Node

/-- A design is what is left of another: its layers stand for the root and for those that stay
and have above them, below the root, only layers that stay; each is in one place, and has all
it had but its children. -/
structure IsLeftOf (kept node : Node) (source : Place → Place) : Prop where
  bijective : Set.BijOn source kept.places (node.keptPlaces fun inner => inner.value.visible && !Node.isDecorative inner)
  ordered : StrictMonoOn source kept.places
  top : source [] = []
  parents : ∀ place i, place ++ [i] ∈ kept.places → ∃ j, source (place ++ [i]) = source place ++ [j]
  layers : ∀ place ∈ kept.places, ∃ left stood, kept.at? place = some left ∧ node.at? (source place) = some stood ∧
    left.value = stood.value

private theorem isLeftOf_withoutDecoration (node : Node) : node.withoutDecoration.IsLeftOf node (node.origin isKept) where
  bijective := Tree.bijOn_origin isKept node
  ordered := (Tree.strictMono_origin isKept node).strictMonoOn _
  top := rfl
  parents := fun place i _ => Tree.origin_concat isKept node place i
  layers := by
    intro place present
    obtain ⟨left, found⟩ := Option.isSome_iff_exists.mp present
    have stood := found
    rw [withoutDecoration, Tree.at?_prune] at stood
    obtain ⟨inner, there, rfl⟩ := Option.map_eq_some_iff.mp stood
    exact ⟨_, inner, found, there, Tree.value_prune isKept inner⟩

/-- What stays is told from a layer and from whether it has children. -/
theorem isKept_congr (first second : Node) (layer : first.value = second.value) (leaf : first.isLeaf = second.isLeaf) :
    first.isKept = second.isKept := by
  simp only [isKept, isDecorative, layer, leaf]

/-- Pruning leaves exactly what stays. So a layer that does not, hidden with all inside it or a
decoration, makes no difference below the root or where there are children already: not to what
is left and not to a file. -/
theorem withoutDecoration_exact (node : Node) :
    (∃ source, node.withoutDecoration.IsLeftOf node source) ∧
    ∀ (extra : Node) (place : Place) (i : Nat), extra.value.visible = false ∨ extra.isDecorative = true →
      (place = [] ∨ ∃ parent, node.at? place = some parent ∧ parent.children ≠ []) →
      withoutDecoration (node.insertAt place i extra) = node.withoutDecoration ∧
      ∀ (target : Target) tokens name,
        target.renderer.render tokens (node.insertAt place i extra) name = target.renderer.render tokens node name := by
  refine ⟨⟨_, isLeftOf_withoutDecoration node⟩, fun extra place i unseen inner => ?_⟩
  have dropped : extra.isKept = false := by
    rcases unseen with hidden | decorative
    · rw [isKept, hidden, Bool.false_and]
    · rw [isKept, decorative, Bool.not_true, Bool.and_false]
  have same : withoutDecoration (node.insertAt place i extra) = node.withoutDecoration := by
    refine Tree.prune_insertAt dropped isKept_congr (inner.imp_right (Exists.imp fun parent => And.imp_right ?_)) i
    exact List.isEmpty_eq_false_iff.mpr
  refine ⟨same, fun target tokens name => ?_⟩
  simp only [Component.Renderer.render, same]

/-- A second icon in a wrapper that its icon is taken out of, which stays. -/
theorem withoutDecoration_exact_emptied :
    let node := Site.emptiedFrame
    (node.withoutDecoration = .node node.value [.node (.bare "3:1" "wrapper" .container) []] ∧ Site.dot.isDecorative = true ∧
      ∃ parent, node.at? [0] = some parent ∧ parent.children ≠ []) ∧
    (∃ source, node.withoutDecoration.IsLeftOf node source) ∧
    withoutDecoration (node.insertAt [0] 1 Site.dot) = node.withoutDecoration ∧
    ∀ (target : Target) tokens name,
      target.renderer.render tokens (node.insertAt [0] 1 Site.dot) name = target.renderer.render tokens node name := by
  intro node
  have decorative : Site.dot.isDecorative = true := by decide
  have family : ∃ parent, node.at? [0] = some parent ∧ parent.children ≠ [] := ⟨_, rfl, List.cons_ne_nil _ _⟩
  have exact := withoutDecoration_exact node
  exact ⟨⟨by decide +kernel, decorative, family⟩, exact.1, exact.2 Site.dot [0] 1 (.inr decorative) (.inr family)⟩

end Node

end Handoff
