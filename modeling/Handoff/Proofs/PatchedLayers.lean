import Handoff.Proofs.PageSections
import Handoff.Proofs.TreePlaces
import Mathlib.Data.List.Nodup

/-! Giving the address of a picture to all layers with an id. The layers are visited with a list of
the places that are still to be seen, where the last child of a layer comes first; what is left in
the end does not show that. Each layer with the id has the address and nothing else is different. -/

namespace Handoff

namespace Tree

variable {α β : Type}

private theorem at?_append (t : Tree α) (outer inner : Place) : t.at? (outer ++ inner) = (t.at? outer).bind (·.at? inner) := by
  induction outer generalizing t with
  | nil => rfl
  | cons i outer ih =>
    rw [List.cons_append, at?, at?]
    cases t.children[i]? with
    | none => rfl
    | some child => exact ih child

/-- The tree with the subtree at a place, if there is one, changed by a function. -/
def modifyAt (f : Tree α → Tree α) : Place → Tree α → Tree α
  | [], t => f t
  | i :: place, .node value children => .node value (children.modify i (modifyAt f place))

theorem modifyAt_modifyAt (f g : Tree α → Tree α) (place : Place) (t : Tree α) :
    modifyAt g place (modifyAt f place t) = modifyAt (fun inner => g (f inner)) place t := by
  induction place generalizing t with
  | nil => rfl
  | cons i place ih =>
    cases t with
    | node value children =>
      simp only [modifyAt, List.modify_modify_eq]
      exact congrArg (fun change => node value (children.modify i change)) (funext ih)

private theorem modifyAt_append (f : Tree α → Tree α) (outer inner : Place) (t : Tree α) :
    modifyAt f (outer ++ inner) t = modifyAt (modifyAt f inner) outer t := by
  induction outer generalizing t with
  | nil => rfl
  | cons i outer ih =>
    cases t with
    | node value children =>
      rw [List.cons_append, modifyAt, modifyAt]
      exact congrArg (fun change => node value (children.modify i change)) (funext ih)

private theorem modify_congr {f g : α → α} {values : List α} {i : Nat}
    (same : ∀ value, values[i]? = some value → f value = g value) : values.modify i f = values.modify i g := by
  refine List.ext_getElem? fun j => ?_
  rw [List.getElem?_modify, List.getElem?_modify]
  by_cases here : i = j
  · subst here
    cases found : values[i]? with
    | none => rfl
    | some value => simp [same value found]
  · simp [here]

/-- What a change does elsewhere does not matter. -/
theorem modifyAt_congr {f g : Tree α → Tree α} {place : Place} {t : Tree α}
    (same : ∀ inner, t.at? place = some inner → f inner = g inner) : modifyAt f place t = modifyAt g place t := by
  induction place generalizing t with
  | nil => exact same t rfl
  | cons i place ih =>
    cases t with
    | node value children =>
      rw [modifyAt, modifyAt]
      refine congrArg (node value) (modify_congr fun child found => ih fun inner below => same inner ?_)
      rw [at?, Tree.children, found]
      exact below

theorem modifyAt_id (place : Place) (t : Tree α) : modifyAt (fun inner => inner) place t = t := by
  induction place generalizing t with
  | nil => rfl
  | cons i place ih =>
    cases t with
    | node value children =>
      rw [modifyAt, funext ih]
      exact congrArg (node value) (List.modify_id i children)

/-- What a change of a subtree leaves as it was, a change at a place does. -/
theorem map_modifyAt {f : Tree α → Tree α} (g : α → β) (kept : ∀ inner, map g (f inner) = map g inner) (place : Place)
    (t : Tree α) : map g (modifyAt f place t) = map g t := by
  induction place generalizing t with
  | nil => exact kept t
  | cons i place ih =>
    cases t with
    | node value children =>
      rw [modifyAt, map_node, map_node]
      refine congrArg (node (g value)) (List.ext_getElem? fun j => ?_)
      rw [List.getElem?_map, List.getElem?_map, List.getElem?_modify]
      cases children[j]? with
      | none => rfl
      | some child =>
        by_cases here : i = j
        · simp [here, ih]
        · simp [here]

/-- The places of the children of the node at a place, the last child first. -/
def placesBelow (place : Place) (count : Nat) : List Place := (List.range count).reverse.map (place ++ [·])

/-- Changes below a place, one after the other, are one change there. -/
theorem foldl_modifyAt_below (f : Tree α → Tree α) (place : Place) (count : Nat) (t : Tree α) :
    (placesBelow place count).foldl (fun t place => modifyAt f place t) t =
      modifyAt (fun inner => (placesBelow [] count).foldl (fun t place => modifyAt f place t) inner) place t := by
  simp only [placesBelow, List.foldl_map, List.nil_append]
  induction (List.range count).reverse generalizing t with
  | nil => exact (modifyAt_id place t).symm
  | cons i rest ih =>
    rw [List.foldl_cons, ih, modifyAt_append, modifyAt_modifyAt]
    rfl

private theorem getElem?_foldl_modify (f : α → α) {indices : List Nat} (distinct : indices.Nodup) (values : List α) (j : Nat) :
    (indices.foldl (fun values i => values.modify i f) values)[j]? = values[j]?.map fun value => if j ∈ indices then f value else value := by
  induction indices generalizing values with
  | nil => simp
  | cons i rest ih =>
    obtain ⟨fresh, distinct⟩ := List.nodup_cons.mp distinct
    rw [List.foldl_cons, ih distinct, List.getElem?_modify]
    cases values[j]? with
    | none => rfl
    | some value =>
      by_cases here : j = i
      · subst here
        simp [fresh]
      · simp [here, Ne.symm here]

private theorem foldl_modifyAt_children (f : Tree α → Tree α) (value : α) (children : List (Tree α)) :
    (placesBelow [] children.length).foldl (fun t place => modifyAt f place t) (node value children) = node value (children.map f) := by
  have inside : ∀ (indices : List Nat) (below : List (Tree α)),
      (indices.map ([·])).foldl (fun t place => modifyAt f place t) (node value below) =
        node value (indices.foldl (fun values i => values.modify i f) below) := by
    intro indices
    induction indices with
    | nil => exact fun _ => rfl
    | cons i rest ih => exact fun below => ih _
  refine (inside _ children).trans (congrArg (node value) (List.ext_getElem? fun j => ?_))
  rw [getElem?_foldl_modify f (List.nodup_reverse.mpr List.nodup_range), List.getElem?_map]
  cases found : children[j]? with
  | none => rfl
  | some child =>
    have listed : j ∈ (List.range children.length).reverse := by
      rw [List.mem_reverse, List.mem_range]
      exact (List.getElem?_eq_some_iff.mp found).1
    simp [listed]

/-- A sum over the children of the node at a place. -/
theorem sum_placesBelow {t : Tree α} {place : Place} {value : α} {children : List (Tree α)}
    (found : t.at? place = some (node value children)) (amount : Option (Tree α) → Nat) :
    ((placesBelow place children.length).map fun place => amount (t.at? place)).sum =
      (children.map fun child => amount (some child)).sum := by
  have listed : (List.range children.length).map (fun i => amount (t.at? (place ++ [i]))) = children.map fun child => amount (some child) := by
    refine List.ext_getElem (by simp) fun i short _ => ?_
    have short : i < children.length := by simpa using short
    simp [at?_append, found, at?, Tree.children, List.getElem?_eq_getElem short]
  rw [placesBelow, List.map_map, List.map_reverse, List.sum_reverse]
  exact congrArg List.sum listed

end Tree

namespace Node
open Handoff.Tree (modifyAt placesBelow)

/-- Layers that are being patched: the tree as it is so far, the places that are still to be visited,
the next one first, and how many layers have got the address. -/
structure Patching where
  tree : Node
  pending : List Place
  patched : Nat

/-- A layer with the address of a picture. -/
def assign (url : String) : Node → Node
  | .node layer children => .node { layer with assetUrl := some url } children

/-- What becomes of a layer when it is visited. -/
def visited (id url : String) (node : Node) : Node := if node.value.id = id then assign url node else node

def ids (node : Node) : Tree String := node.map (·.id)

namespace Patching

variable {id url : String} {state next : Patching}

def start (node : Node) : Patching := ⟨node, [[]], 0⟩

/-- Visits the next place: the layer there gets the address if it has the id, and its children are
to be visited before all others. -/
def visit? (id url : String) (state : Patching) : Option Patching :=
  match state.pending with
  | [] => none
  | place :: pending =>
    match state.tree.at? place with
    | none => some { state with pending }
    | some inner =>
      let pending := placesBelow place inner.children.length ++ pending
      if inner.value.id = id then some ⟨state.tree.modifyAt (assign url) place, pending, state.patched + 1⟩
      else some { state with pending }

/-- How many layers there are at the pending places and below them. A visit changes no id, so this
and the next number can be told from the ids. -/
def weight (state : Patching) : Nat :=
  (state.pending.map fun place => ((state.tree.ids.at? place).map Tree.size).getD 1).sum

/-- How many of them have an id. -/
def awaited (id : String) (state : Patching) : Nat :=
  (state.pending.map fun place => ((state.tree.ids.at? place).map (·.values.count id)).getD 0).sum

/-- What a visit leaves. -/
theorem visit?_eq_some (seen : state.visit? id url = some next) :
    ∃ place pending, state.pending = place :: pending ∧
      ((state.tree.at? place = none ∧ next = { state with pending }) ∨
        ∃ layer children, state.tree.at? place = some (.node layer children) ∧
          next = ⟨state.tree.modifyAt (visited id url) place, placesBelow place children.length ++ pending,
            state.patched + if layer.id = id then 1 else 0⟩) := by
  rw [visit?] at seen
  split at seen
  · cases seen
  next place pending waiting =>
    refine ⟨place, pending, waiting, ?_⟩
    split at seen
    next absent => exact .inl ⟨absent, (Option.some.inj seen).symm⟩
    next inner found =>
      obtain ⟨layer, children⟩ := inner
      refine .inr ⟨layer, children, found, ?_⟩
      have here : ∀ inner, state.tree.at? place = some inner → inner = .node layer children := by
        intro inner again
        exact Option.some.inj (again.symm.trans found)
      by_cases same : layer.id = id
      · rw [if_pos same]
        have change : state.tree.modifyAt (visited id url) place = state.tree.modifyAt (assign url) place := by
          refine Tree.modifyAt_congr fun inner again => ?_
          rw [here inner again]
          exact if_pos same
        rw [change]
        exact (Option.some.inj ((if_pos same).symm.trans seen)).symm
      · rw [if_neg same]
        have change : state.tree.modifyAt (visited id url) place = state.tree := by
          refine (Tree.modifyAt_congr fun inner again => ?_).trans (Tree.modifyAt_id place state.tree)
          rw [here inner again]
          exact if_neg same
        rw [change]
        exact (Option.some.inj ((if_neg same).symm.trans seen)).symm

private theorem ids_visited (node : Node) : ids (visited id url node) = ids node := by
  rw [visited]
  split
  · cases node with
    | node layer children => rw [assign, ids, ids, Tree.map_node, Tree.map_node]
  · rfl

theorem ids_modifyAt_visited (place : Place) (tree : Node) : ids (tree.modifyAt (visited id url) place) = tree.ids :=
  Tree.map_modifyAt _ ids_visited place tree

theorem at?_ids {tree : Node} {place : Place} {layer : Layer} {children : List Node} (found : tree.at? place = some (.node layer children)) :
    tree.ids.at? place = some (.node layer.id (children.map ids)) := by
  rw [ids, Tree.at?_map, found, Option.map_some, Tree.map_node]
  rfl

/-- Each visit leaves less to do. -/
theorem weight_visit?_lt (seen : state.visit? id url = some next) : next.weight < state.weight := by
  obtain ⟨place, pending, waiting, ⟨absent, rfl⟩ | ⟨layer, children, found, rfl⟩⟩ := visit?_eq_some seen
  · have nothing : state.tree.ids.at? place = none := by rw [ids, Tree.at?_map, absent, Option.map_none]
    simp [weight, waiting, nothing]
  · have below : ((placesBelow place children.length).map fun place => ((state.tree.ids.at? place).map Tree.size).getD 1).sum =
        ((children.map ids).map Tree.size).sum := by
      rw [← List.length_map ids]
      exact Tree.sum_placesBelow (at?_ids found) fun inner => (inner.map Tree.size).getD 1
    simp only [weight, waiting, ids_modifyAt_visited, List.map_append, List.sum_append, below, List.map_cons, List.sum_cons,
      at?_ids found, Option.map_some, Option.getD_some, Tree.size_node]
    omega

/-- Visits the pending places until there are none. -/
def run (id url : String) (state : Patching) : Patching :=
  match _ : state.visit? id url with
  | none => state
  | some next => run id url next
termination_by state.weight
decreasing_by exact weight_visit?_lt ‹_›

/-- The tree with everything at the pending places and below them patched. -/
def settled (id url : String) (state : Patching) : Node :=
  state.pending.foldl (fun tree place => tree.modifyAt (patchAsset · id url) place) state.tree

/-- Patching everything at a place and below it is visiting the layer there and patching its children. -/
theorem patchAsset_eq (layer : Layer) (children : List Node) :
    patchAsset (.node layer children) id url =
      (placesBelow [] children.length).foldl (fun tree place => tree.modifyAt (patchAsset · id url) place)
        (visited id url (.node layer children)) := by
  have value : ∃ other, visited id url (.node layer children) = .node other children ∧
      other = if layer.id = id then { layer with assetUrl := some url } else layer := by
    refine ⟨_, ?_, rfl⟩
    by_cases same : layer.id = id
    · rw [if_pos same]
      exact if_pos same
    · rw [if_neg same]
      exact if_neg same
  obtain ⟨other, now, rfl⟩ := value
  rw [now, Tree.foldl_modifyAt_children, patchAsset, Tree.map_node]
  rfl

private theorem settled_visit? (seen : state.visit? id url = some next) : next.settled id url = state.settled id url := by
  obtain ⟨place, pending, waiting, ⟨absent, rfl⟩ | ⟨layer, children, found, rfl⟩⟩ := visit?_eq_some seen
  · have nothing : state.tree.modifyAt (patchAsset · id url) place = state.tree :=
      (Tree.modifyAt_congr fun inner found => by rw [absent] at found; cases found).trans (Tree.modifyAt_id place state.tree)
    rw [settled, settled, waiting, List.foldl_cons, nothing]
  · have whole : state.tree.modifyAt (patchAsset · id url) place =
        (placesBelow place children.length).foldl (fun tree place => tree.modifyAt (patchAsset · id url) place)
          (state.tree.modifyAt (visited id url) place) := by
      rw [Tree.foldl_modifyAt_below, Tree.modifyAt_modifyAt]
      refine Tree.modifyAt_congr fun inner again => ?_
      rw [Option.some.inj (again.symm.trans found)]
      exact patchAsset_eq layer children
    rw [settled, settled, waiting, List.foldl_cons, List.foldl_append, whole]

private theorem count_visit? (seen : state.visit? id url = some next) :
    next.patched + next.awaited id = state.patched + state.awaited id := by
  obtain ⟨place, pending, waiting, ⟨absent, rfl⟩ | ⟨layer, children, found, rfl⟩⟩ := visit?_eq_some seen
  · have nothing : state.tree.ids.at? place = none := by rw [ids, Tree.at?_map, absent, Option.map_none]
    simp [awaited, waiting, nothing]
  · have below : ((placesBelow place children.length).map fun place => ((state.tree.ids.at? place).map (·.values.count id)).getD 0).sum =
        ((children.map ids).map (·.values.count id)).sum := by
      rw [← List.length_map ids]
      exact Tree.sum_placesBelow (at?_ids found) fun inner => (inner.map (·.values.count id)).getD 0
    have whole : (Tree.node layer.id (children.map ids)).values.count id =
        ((children.map ids).map (·.values.count id)).sum + if layer.id = id then 1 else 0 := by
      rw [Tree.values_node, List.count_cons, List.count_flatMap]
      simp only [beq_iff_eq, Function.comp_def]
    simp only [awaited, waiting, ids_modifyAt_visited, List.map_append, List.sum_append, below, List.map_cons, List.sum_cons,
      at?_ids found, Option.map_some, Option.getD_some, whole]
    omega

private theorem run_eq (id url : String) (state : Patching) :
    state.run id url = ⟨state.settled id url, [], state.patched + state.awaited id⟩ := by
  fun_induction run id url state with
  | case1 state finished =>
    have empty : state.pending = [] := by
      rw [visit?] at finished
      split at finished
      next waiting => exact waiting
      next =>
        split at finished
        · cases finished
        · split at finished <;> cases finished
    cases state with
    | mk tree pending patched =>
      cases empty
      rfl
  | case2 state next seen ih => rw [ih, settled_visit? seen, count_visit? seen]

/-- Starting with a whole tree, the places lead to every layer once. -/
theorem run_start (id url : String) (node : Node) : (start node).run id url = ⟨node.patchAsset id url, [], node.countId id⟩ := by
  rw [run_eq]
  congr 1
  have named : (ids node).values = node.values.map (·.id) := Tree.values_map _ node
  have whole : (start node).awaited id = (ids node).values.count id := Nat.add_zero _
  rw [whole, named, countId, List.count, List.countP_map]
  exact (Nat.zero_add _).trans (List.countP_congr fun layer _ => by simp)

end Patching

private theorem countId_patchAsset (node : Node) (id url other : String) :
    countId (node.patchAsset id url) other = node.countId other := by
  rw [countId, patchAsset, Tree.values_map, List.countP_map, countId]
  refine List.countP_congr fun layer _ => ?_
  rw [Function.comp_apply]
  split <;> rfl

private theorem patchAsset_patchAsset_self (node : Node) (id url later : String) :
    patchAsset (node.patchAsset id url) id later = node.patchAsset id later := by
  rw [patchAsset, patchAsset, patchAsset, Tree.map_map]
  congr 1
  funext layer
  by_cases same : layer.id = id
  · simp [same]
  · simp [same]

private theorem patchAsset_comm (node : Node) {id other : String} (different : other ≠ id) (url otherUrl : String) :
    patchAsset (node.patchAsset id url) other otherUrl = patchAsset (node.patchAsset other otherUrl) id url := by
  simp only [patchAsset, Tree.map_map]
  congr 1
  funext layer
  by_cases same : layer.id = id
  · simp [same, different.symm]
  · by_cases found : layer.id = other
    · simp [found, different]
    · simp [same, found]

/-- What is left when a tree was patched: at each place there is a layer if there was one, with the
address if it has the id and else as it was. The layers with the id are counted as a reader meets them. -/
structure Patches (id url : String) (before : Node) (done : Patching) : Prop where
  finished : done.pending = []
  layers : ∀ place, (done.tree.at? place).map Tree.value = (before.at? place).map fun inner =>
    if inner.value.id = id then { inner.value with assetUrl := some url } else inner.value
  counted : done.patched = (before.subtrees.filter (·.value.id = id)).length

private theorem patches_patchAsset (node : Node) (id url : String) :
    Patches id url node ⟨node.patchAsset id url, [], node.countId id⟩ where
  finished := rfl
  layers place := by
    rw [patchAsset, Tree.at?_map, Option.map_map]
    congr 1
    funext inner
    cases inner with
    | node layer children =>
      rw [Function.comp_apply, Tree.map_node]
      rfl
  counted := by
    rw [countId, Tree.values, List.countP_map, List.countP_eq_length_filter]
    rfl

open Patching in
/-- Visiting the layers from the root until no place is pending patches exactly the layers with an
id. Doing so again changes nothing, of two addresses for an id the later one stays, and for two ids
it does not matter which comes first. -/
theorem run_patches (node : Node) (id url : String) :
    let done := (start node).run id url
    Patches id url node done ∧ node.patchAsset id url = done.tree ∧ node.countId id = done.patched ∧
    (start done.tree).run id url = done ∧
    (∀ later, (start done.tree).run id later = (start node).run id later) ∧
    ∀ other otherUrl, other ≠ id →
      ((start done.tree).run other otherUrl).tree = ((start ((start node).run other otherUrl).tree).run id url).tree ∧
      ((start done.tree).run other otherUrl).patched = ((start node).run other otherUrl).patched := by
  simp only [run_start, countId_patchAsset, patchAsset_patchAsset_self, true_and, implies_true]
  refine ⟨patches_patchAsset node id url, fun other otherUrl different => ?_⟩
  exact ⟨patchAsset_comm node different url otherUrl, trivial⟩

open Patching in
/-- An id that a layer shares with one inside it and with a sibling of its parent. -/
theorem run_patches_repeated :
    let logo : Node := .node (.bare "3:1" "Logo" .image) []
    let node : Node := .node (.bare "0:1" "Page" .container)
      [.node (.bare "2:1" "Nav" .navbar) [.node (.bare "3:1" "Logos" .container) [logo]], logo]
    let done := (start node).run "3:1" "https://cdn/logo.png"
    (done.patched = 3 ∧ "2:1" ≠ "3:1") ∧
    ((start done.tree).run "2:1" "https://cdn/nav.png").tree =
      ((start ((start node).run "2:1" "https://cdn/nav.png").tree).run "3:1" "https://cdn/logo.png").tree := by
  intro logo node done
  have different : "2:1" ≠ "3:1" := by decide
  have three : node.countId "3:1" = 3 := by
    simp only [countId, node, logo, Tree.values_node, List.flatMap_cons, List.flatMap_nil, List.append_nil]
    decide
  obtain ⟨-, -, counted, -, -, apart⟩ := run_patches node "3:1" "https://cdn/logo.png"
  exact ⟨⟨counted.symm.trans three, different⟩, (apart "2:1" "https://cdn/nav.png" different).1⟩

end Node

end Handoff
