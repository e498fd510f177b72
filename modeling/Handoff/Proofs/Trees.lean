import Handoff.Tree
import Mathlib.Algebra.GroupWithZero.Nat

/-! Induction over trees whose hypothesis speaks of every child, and what a walk or a change
makes of a node by its children. -/

namespace Handoff.Tree

variable {α : Type} {motive : Tree α → Prop}

mutual

private theorem induction_node (node : ∀ value children, (∀ child ∈ children, motive child) → motive (.node value children)) :
    ∀ t : Tree α, motive t
  | .node value children => node value children (induction_children node children)

private theorem induction_children (node : ∀ value children, (∀ child ∈ children, motive child) → motive (.node value children)) :
    ∀ children : List (Tree α), ∀ child ∈ children, motive child
  | [], _, member => absurd member List.not_mem_nil
  | first :: rest, child, member => by
    rcases List.mem_cons.mp member with same | inside
    · rw [same]
      exact induction_node node first
    · exact induction_children node rest child inside

end

/-- What holds of a node when it holds of the node's children holds of every tree. -/
@[elab_as_elim]
theorem childInduction (node : ∀ value children, (∀ child ∈ children, motive child) → motive (.node value children))
    (t : Tree α) : motive t := induction_node node t

private theorem sizeAll_eq_sum (children : List (Tree α)) : sizeAll children = (children.map size).sum := by
  induction children with
  | nil => rfl
  | cons child rest ih => rw [sizeAll, ih, List.map_cons, List.sum_cons]

theorem size_node (value : α) (children : List (Tree α)) : (node value children).size = 1 + (children.map size).sum := by
  rw [size, sizeAll_eq_sum]

theorem preorderAll_eq_flatMap (children : List (Tree α)) : preorderAll children = children.flatMap preorder := by
  induction children with
  | nil => rfl
  | cons child rest ih => rw [preorderAll, ih, List.flatMap_cons]

/-- A reader sees a node's value and then the values of its children. -/
theorem values_node (value : α) (children : List (Tree α)) :
    (node value children).values = value :: children.flatMap values := by
  have walked : (values : Tree α → List α) = fun t => t.preorder.map Tree.value := by
    funext t
    rw [values, subtrees_eq_preorder]
  rw [walked]
  dsimp only
  rw [preorder, preorderAll_eq_flatMap, List.map_cons, List.map_flatMap]
  rfl

theorem mapAll_eq_map {β : Type} (f : α → β) (children : List (Tree α)) : mapAll f children = children.map (map f) := by
  induction children with
  | nil => rfl
  | cons child rest ih => rw [mapAll, ih, List.map_cons]

theorem map_node {β : Type} (f : α → β) (value : α) (children : List (Tree α)) :
    map f (.node value children) = .node (f value) (children.map (map f)) := by
  rw [map, mapAll_eq_map]

theorem map_map {β γ : Type} (g : β → γ) (f : α → β) (t : Tree α) : map g (map f t) = map (fun value => g (f value)) t := by
  induction t using childInduction with
  | node value children ih =>
    rw [map_node, map_node, map_node, List.map_map]
    congr 1
    exact List.map_congr_left ih

theorem map_id (t : Tree α) : map (fun value => value) t = t := by
  induction t using childInduction with
  | node value children ih =>
    rw [map_node]
    congr 1
    exact (List.map_congr_left ih).trans (List.map_id children)

theorem pruneAll_eq_map (keep : Tree α → Bool) (children : List (Tree α)) :
    pruneAll keep children = (children.filter keep).map (prune keep) := by
  induction children with
  | nil => rfl
  | cons child rest ih => rw [pruneAll, ih, List.filter_cons]; split <;> rfl

theorem prune_node (keep : Tree α → Bool) (value : α) (children : List (Tree α)) :
    prune keep (.node value children) = .node value ((children.filter keep).map (prune keep)) := by
  rw [prune, pruneAll_eq_map]

theorem values_map {β : Type} (f : α → β) (t : Tree α) : (map f t).values = t.values.map f := by
  induction t using childInduction with
  | node value children ih =>
    rw [map_node, values_node, values_node, List.map_cons, List.map_flatMap, List.flatMap_map, List.flatMap_def,
      List.flatMap_def, List.map_congr_left ih]

theorem mem_values_of_mem_prune {keep : Tree α → Bool} {t : Tree α} {value : α} (member : value ∈ (prune keep t).values) :
    value ∈ t.values := by
  induction t using childInduction with
  | node top children ih =>
    rw [prune_node, values_node, List.flatMap_map] at member
    rw [values_node]
    rcases List.mem_cons.mp member with rfl | below
    · exact List.mem_cons_self
    · obtain ⟨child, kept, inside⟩ := List.mem_flatMap.mp below
      have stayed := (List.mem_filter.mp kept).1
      exact List.mem_cons_of_mem _ (List.mem_flatMap.mpr ⟨child, stayed, ih child stayed inside⟩)

theorem subtrees_node (value : α) (children : List (Tree α)) :
    (node value children).subtrees = .node value children :: children.flatMap subtrees := by
  have walked : (subtrees : Tree α → List (Tree α)) = preorder := funext subtrees_eq_preorder
  rw [walked, preorder, preorderAll_eq_flatMap]

theorem mem_subtrees_self (t : Tree α) : t ∈ t.subtrees := by
  cases t with
  | node value children => exact subtrees_node value children ▸ List.mem_cons_self

/-- Everything below the root of a tree passes a test. -/
def AllBelow (keep : Tree α → Bool) (t : Tree α) : Prop := ∀ inner ∈ t.subtrees.tail, keep inner = true

instance (keep : Tree α → Bool) (t : Tree α) : Decidable (t.AllBelow keep) := List.decidableBAll _ _

theorem allBelow_node {keep : Tree α → Bool} {value : α} {children : List (Tree α)} :
    (node value children).AllBelow keep ↔ ∀ child ∈ children, keep child = true ∧ child.AllBelow keep := by
  simp only [AllBelow, subtrees_node, List.tail_cons, List.mem_flatMap, forall_exists_index, and_imp]
  constructor
  · intro all child member
    refine ⟨all child child member child.mem_subtrees_self, fun inner below => ?_⟩
    exact all inner child member (List.mem_of_mem_tail below)
  · rintro all inner child member inside
    obtain ⟨kept, below⟩ := all child member
    cases child with
    | node childValue grandchildren =>
      rw [subtrees_node] at inside below
      rcases List.mem_cons.mp inside with rfl | deeper
      · exact kept
      · exact below inner deeper

theorem value_prune (keep : Tree α → Bool) (t : Tree α) : (prune keep t).value = t.value := by
  cases t with
  | node value children =>
    rw [prune_node]
    rfl

theorem children_prune (keep : Tree α → Bool) (t : Tree α) :
    (prune keep t).children = (t.children.filter keep).map (prune keep) := by
  cases t with
  | node value children =>
    rw [prune_node]
    rfl

/-- What all values below a root pass, those that are left below it pass. -/
theorem AllBelow.prune {keep : Tree α → Bool} {test : α → Bool} {t : Tree α} (all : t.AllBelow (test ·.value)) :
    (prune keep t).AllBelow (test ·.value) := by
  induction t using childInduction with
  | node value children ih =>
    rw [allBelow_node] at all
    rw [prune_node, allBelow_node, List.forall_mem_map]
    intro child kept
    have listed := (List.mem_filter.mp kept).1
    exact ⟨value_prune keep child ▸ (all child listed).1, ih child listed (all child listed).2⟩

/-- Pruning leaves a tree as it is exactly when there is nothing to prune. -/
theorem prune_eq_self_iff {keep : Tree α → Bool} {t : Tree α} : prune keep t = t ↔ t.AllBelow keep := by
  induction t using childInduction with
  | node value children ih =>
    rw [prune_node, allBelow_node]
    constructor
    · intro same
      injection same with _ same
      have all : children.filter keep = children := by
        refine List.filter_sublist.eq_of_length ?_
        rw [← List.length_map (prune keep), same]
      rw [all] at same
      intro child member
      refine ⟨List.filter_eq_self.mp all child member, (ih child member).mp ?_⟩
      exact List.map_inj_left.mp (same.trans (List.map_id children).symm) child member
    · intro all
      rw [List.filter_eq_self.mpr fun child member => (all child member).1]
      congr 1
      exact (List.map_congr_left fun child member => (ih child member).mpr (all child member).2).trans (List.map_id children)

/-- A subtree some generations below the root of a tree. -/
inductive Below : Nat → Tree α → Tree α → Prop
  | self (t : Tree α) : Below 0 t t
  | child {generations : Nat} {value : α} {children : List (Tree α)} {child t : Tree α} (member : child ∈ children)
    (below : Below generations child t) : Below (generations + 1) (.node value children) t

end Handoff.Tree
