import Handoff.Proofs.OrderedMaps
import Handoff.Proofs.TreePlaces

/-! Walking over a tree with a stack. The children of a node are put on top of what is waiting, the
first child last, so each node is visited once and as a reader comes to it. What is asked of a
design by walking over it is then answered by the layers that come first. -/

namespace Handoff

/-! Lists whose entries have rising keys -/

section Rising

variable {κ α β : Type} [Preorder κ] {entries : List (κ × α)}

/-- The first answer in a list is that of the entry with the least key. -/
theorem findSome?_eq_some_of_rising (rising : entries.Pairwise (·.1 < ·.1)) {look : κ × α → Option β} {answer : β} :
    entries.findSome? look = some answer ↔
      ∃ entry ∈ entries, look entry = some answer ∧ ∀ other ∈ entries, other.1 < entry.1 → look other = none := by
  induction entries with
  | nil => simp
  | cons first rest ih =>
    obtain ⟨later, rising⟩ := List.pairwise_cons.mp rising
    cases here : look first with
    | some given =>
      rw [List.findSome?_cons_of_isSome (by rw [here, Option.isSome_some]), here]
      constructor
      · rintro ⟨⟩
        refine ⟨first, List.mem_cons_self, here, fun other listed before => ?_⟩
        rcases List.mem_cons.mp listed with rfl | listed
        · exact absurd before (lt_irrefl _)
        · exact absurd before (lt_asymm (later other listed))
      · rintro ⟨entry, listed, told, silent⟩
        rcases List.mem_cons.mp listed with rfl | listed
        · exact here.symm.trans told
        · cases here.symm.trans (silent first List.mem_cons_self (later entry listed))
    | none =>
      rw [List.findSome?_cons_of_isNone (by rw [here, Option.isNone_none]), ih rising]
      constructor
      · rintro ⟨entry, listed, told, silent⟩
        exact ⟨entry, List.mem_cons_of_mem _ listed, told, List.forall_mem_cons.mpr ⟨fun _ => here, silent⟩⟩
      · rintro ⟨entry, listed, told, silent⟩
        rcases List.mem_cons.mp listed with rfl | listed
        · cases here.symm.trans told
        · exact ⟨entry, listed, told, (List.forall_mem_cons.mp silent).2⟩

/-- What is left when repeated values are dropped are the values of the entries that come before
all others with the same value. -/
theorem eraseDups_map_of_rising [DecidableEq β] (rising : entries.Pairwise (·.1 < ·.1)) (f : κ × α → β) :
    ∃ firsts : List (κ × α), firsts.Sublist entries ∧
      (∀ entry, entry ∈ firsts ↔ entry ∈ entries ∧ ∀ other ∈ entries, other.1 < entry.1 → f other ≠ f entry) ∧
      (entries.map f).eraseDups = firsts.map f := by
  induction entries using List.reverseRecOn with
  | nil => exact ⟨[], List.Sublist.refl [], fun _ => by simp, rfl⟩
  | append_singleton entries last ih =>
    obtain ⟨rising, -, above⟩ := List.pairwise_append.mp rising
    have above : ∀ entry ∈ entries, entry.1 < last.1 := fun entry listed => above entry listed last List.mem_cons_self
    obtain ⟨firsts, kept, told, same⟩ := ih rising
    -- the last entry comes after all others, so it has no say in which of them come first
    have before : ∀ entry, (entry ∈ entries ++ [last] ∧ ∀ other ∈ entries ++ [last], other.1 < entry.1 → f other ≠ f entry) ↔
        entry ∈ firsts ∨ entry = last ∧ f last ∉ entries.map f := by
      intro entry
      rw [told, List.mem_append, List.mem_singleton, List.forall_mem_append, List.forall_mem_singleton, or_and_right]
      refine or_congr ?_ (and_congr_right ?_)
      · refine and_congr_right fun listed => and_iff_left fun less => absurd less (lt_asymm (above entry listed))
      · rintro rfl
        rw [and_iff_left fun less => absurd less (lt_irrefl _), List.mem_map, not_exists]
        exact ⟨fun apart other known => apart other known.1 (above other known.1) known.2,
          fun fresh other listed _ equal => fresh other ⟨listed, equal⟩⟩
    rw [List.map_append, List.map_singleton, eraseDups_concat]
    by_cases known : f last ∈ entries.map f
    · refine ⟨firsts, kept.trans (List.sublist_append_left entries [last]), fun entry => ?_, ?_⟩
      · rw [before, or_iff_left fun fresh => fresh.2 known]
      · rw [if_pos known, same]
    · refine ⟨firsts ++ [last], kept.append_right [last], fun entry => ?_, ?_⟩
      · rw [before, and_iff_left known, List.mem_append, List.mem_singleton]
      · rw [if_neg known, same, List.map_append, List.map_singleton]

end Rising

namespace Tree

variable {α β : Type}

/-! Walks -/

/-- A walk over a tree: the subtrees that are waiting to be visited, the next one last. -/
structure Walk (α : Type) where
  stack : Array (Tree α)

namespace Walk

variable {walk next : Walk α} {t : Tree α}

def start (t : Tree α) : Walk α := ⟨#[t]⟩

/-- Visits the last subtree that is waiting. Its children are put behind the others, the first child
last. -/
def next? (walk : Walk α) : Option (Tree α × Walk α) :=
  walk.stack.back?.map fun t => (t, ⟨walk.stack.pop ++ t.children.reverse⟩)

theorem next?_eq_some_iff :
    walk.next? = some (t, next) ↔ ∃ others : Array (Tree α), walk.stack = others.push t ∧ next.stack = others ++ t.children.reverse := by
  rw [next?, Option.map_eq_some_iff]
  constructor
  · rintro ⟨_, top, same⟩
    obtain ⟨others, waiting⟩ := Array.back?_eq_some_iff.mp top
    cases same
    exact ⟨others, waiting, by rw [waiting, Array.pop_push]⟩
  · rintro ⟨others, waiting, left⟩
    refine ⟨t, by rw [waiting, Array.back?_push], ?_⟩
    rw [waiting, Array.pop_push, ← left]

theorem next?_eq_none_iff : walk.next? = none ↔ walk.stack = #[] := by
  rw [next?, Option.map_eq_none_iff, Array.back?_eq_none_iff]

/-- How many nodes are waiting, with those below them. -/
def weight (walk : Walk α) : Nat := (walk.stack.toList.map size).sum

/-- Each visit leaves one node less. -/
theorem weight_next? (seen : walk.next? = some (t, next)) : walk.weight = next.weight + 1 := by
  obtain ⟨others, waiting, left⟩ := next?_eq_some_iff.mp seen
  cases t with
  | node value children =>
    simp only [weight, waiting, left, Array.toList_push, Array.toList_appendList, List.map_append, List.sum_append,
      List.map_reverse, List.sum_reverse, List.map_singleton, List.sum_singleton, size_node, Tree.children]
    omega

/-- A walk visits subtrees, one after the other, and then none is waiting. -/
inductive Visits : Walk α → List (Tree α) → Prop
  | finished {walk : Walk α} (ended : walk.next? = none) : Visits walk []
  | visit {walk next : Walk α} {t : Tree α} {later : List (Tree α)} (seen : walk.next? = some (t, next))
    (rest : Visits next later) : Visits walk (t :: later)

private theorem Visits.length_eq {visited : List (Tree α)} (run : walk.Visits visited) : visited.length = walk.weight := by
  induction run with
  | finished ended =>
    rw [weight, next?_eq_none_iff.mp ended]
    rfl
  | visit seen _ ih => rw [List.length_cons, ih, weight_next? seen]

private theorem Visits.unique {visited others : List (Tree α)} (run : walk.Visits visited) (again : walk.Visits others) :
    visited = others := by
  induction run generalizing others with
  | finished ended =>
    cases again with
    | finished => rfl
    | visit seen => cases ended.symm.trans seen
  | visit seen _ ih =>
    cases again with
    | finished ended => cases ended.symm.trans seen
    | visit other rest =>
      cases seen.symm.trans other
      rw [ih rest]

/-- Putting the children behind the others, from the last to the first, has them visited next and in
their order. -/
theorem visit_next? (seen : walk.next? = some (t, next)) :
    Tree.visit walk.stack.toList.reverse = t :: Tree.visit next.stack.toList.reverse := by
  obtain ⟨others, waiting, left⟩ := next?_eq_some_iff.mp seen
  cases t with
  | node value children =>
    rw [waiting, left, Array.toList_push, Array.toList_appendList, List.reverse_append, List.reverse_append,
      List.reverse_reverse, List.reverse_singleton, List.singleton_append, Tree.visit]
    rfl

/-- Every walk comes to its end, since the weight of what is waiting falls with each visit. -/
theorem visits_waiting (walk : Walk α) : walk.Visits (Tree.visit walk.stack.toList.reverse) := by
  cases seen : walk.next? with
  | none =>
    rw [next?_eq_none_iff.mp seen, List.reverse_nil, Tree.visit]
    exact .finished seen
  | some visited =>
    obtain ⟨t, next⟩ := visited
    rw [visit_next? seen]
    exact .visit seen (visits_waiting next)
termination_by walk.weight
decreasing_by exact weight_next? seen ▸ Nat.lt_succ_self _

theorem visits_start_iff {visited : List (Tree α)} : (start t).Visits visited ↔ visited = t.subtrees := by
  have whole : (start t).Visits t.subtrees := visits_waiting (start t)
  constructor
  · intro run
    exact run.unique whole
  · intro same
    exact same ▸ whole

end Walk

private theorem length_subtrees (t : Tree α) : t.subtrees.length = t.size := by
  have whole : (Walk.start t).Visits t.subtrees := Walk.visits_start_iff.mpr rfl
  exact whole.length_eq.trans (Nat.add_zero _)

/-! The places of a tree in reading order -/

mutual

/-- The subtrees with their places, in the order of a reader. -/
def outline : Tree α → List (Place × Tree α)
  | .node value children => ([], .node value children) :: outlineAll 0 children

/-- The subtrees of children from a number on. -/
def outlineAll (i : Nat) : List (Tree α) → List (Place × Tree α)
  | [] => []
  | t :: ts => (outline t).map (fun (place, inner) => (i :: place, inner)) ++ outlineAll (i + 1) ts

end

mutual

theorem map_snd_outline (t : Tree α) : (outline t).map Prod.snd = preorder t := by
  cases t with
  | node value children => rw [outline, List.map_cons, map_snd_outlineAll 0 children, preorder]

private theorem map_snd_outlineAll (i : Nat) (ts : List (Tree α)) : (outlineAll i ts).map Prod.snd = preorderAll ts := by
  cases ts with
  | nil => rfl
  | cons t ts =>
    rw [outlineAll, List.map_append, List.map_map, map_snd_outlineAll (i + 1) ts, preorderAll, ← map_snd_outline t]
    rfl

end

theorem mem_outlineAll {ts : List (Tree α)} {i : Nat} {place : Place} {inner : Tree α} :
    (place, inner) ∈ outlineAll i ts ↔
      ∃ j way t, place = (i + j) :: way ∧ ts[j]? = some t ∧ (way, inner) ∈ outline t := by
  induction ts generalizing i with
  | nil => simp [outlineAll]
  | cons first rest ih =>
    rw [outlineAll, List.mem_append, List.mem_map, ih]
    constructor
    · rintro (⟨⟨way, other⟩, listed, same⟩ | ⟨j, way, t, rfl, found, listed⟩)
      · cases same
        exact ⟨0, way, first, rfl, rfl, listed⟩
      · exact ⟨j + 1, way, t, by rw [Nat.add_assoc, Nat.add_comm 1], found, listed⟩
    · rintro ⟨j, way, t, rfl, found, listed⟩
      cases j with
      | zero =>
        cases found
        exact .inl ⟨(way, inner), listed, rfl⟩
      | succ j => exact .inr ⟨j, way, t, by rw [Nat.add_assoc, Nat.add_comm 1], found, listed⟩

theorem mem_outline {t inner : Tree α} {place : Place} : (place, inner) ∈ outline t ↔ t.at? place = some inner := by
  induction place generalizing t with
  | nil =>
    cases t with
    | node value children => simp [outline, mem_outlineAll, at?, eq_comm]
  | cons i place ih =>
    cases t with
    | node value children =>
      simp only [outline, List.mem_cons, Prod.mk.injEq, reduceCtorEq, false_and, false_or, mem_outlineAll, Nat.zero_add,
        List.cons.injEq, at?, Tree.children, Option.bind_eq_some_iff, ← ih]
      constructor
      · rintro ⟨j, way, t, ⟨rfl, rfl⟩, found, listed⟩
        exact ⟨t, found, listed⟩
      · rintro ⟨t, found, listed⟩
        exact ⟨i, place, t, ⟨rfl, rfl⟩, found, listed⟩

mutual

theorem pairwise_outline (t : Tree α) : (outline t).Pairwise (·.1 < ·.1) := by
  cases t with
  | node value children =>
    rw [outline, List.pairwise_cons]
    refine ⟨?_, pairwise_outlineAll 0 children⟩
    rintro ⟨place, inner⟩ listed
    obtain ⟨j, way, -, rfl, -, -⟩ := mem_outlineAll.mp listed
    exact List.nil_lt_cons _ _

private theorem pairwise_outlineAll (i : Nat) (ts : List (Tree α)) : (outlineAll i ts).Pairwise (·.1 < ·.1) := by
  cases ts with
  | nil => exact List.Pairwise.nil
  | cons t ts =>
    rw [outlineAll, List.pairwise_append, List.pairwise_map]
    refine ⟨?_, pairwise_outlineAll (i + 1) ts, ?_⟩
    · exact (pairwise_outline t).imp fun less => List.cons_lt_cons_iff.mpr (.inr ⟨rfl, less⟩)
    · -- what is in a later child has a greater number in front
      rintro _ inside ⟨place, inner⟩ later
      obtain ⟨⟨way, _⟩, -, rfl⟩ := List.mem_map.mp inside
      obtain ⟨j, behind, -, rfl, -, -⟩ := mem_outlineAll.mp later
      exact List.cons_lt_cons_iff.mpr (.inl (by omega))

end

theorem map_snd_outline_eq_subtrees (t : Tree α) : t.outline.map Prod.snd = t.subtrees :=
  (map_snd_outline t).trans (subtrees_eq_preorder t).symm

theorem mem_subtrees_iff {t inner : Tree α} : inner ∈ t.subtrees ↔ ∃ place, t.at? place = some inner := by
  rw [← map_snd_outline_eq_subtrees, List.mem_map]
  constructor
  · rintro ⟨⟨place, _⟩, listed, rfl⟩
    exact ⟨place, mem_outline.mp listed⟩
  · rintro ⟨place, found⟩
    exact ⟨(place, inner), mem_outline.mpr found, rfl⟩

theorem exists_mem_subtrees_iff {t : Tree α} {test : Tree α → Prop} :
    (∃ inner ∈ t.subtrees, test inner) ↔ ∃ place inner, t.at? place = some inner ∧ test inner := by
  simp only [mem_subtrees_iff]
  constructor
  · rintro ⟨inner, ⟨place, found⟩, passes⟩
    exact ⟨place, inner, found, passes⟩
  · rintro ⟨place, inner, found, passes⟩
    exact ⟨inner, ⟨place, found⟩, passes⟩

theorem forall_mem_subtrees_iff {t : Tree α} {test : Tree α → Prop} :
    (∀ inner ∈ t.subtrees, test inner) ↔ ∀ place inner, t.at? place = some inner → test inner := by
  simp only [mem_subtrees_iff, forall_exists_index]
  exact forall_comm

/-- What stands at a place passes a test, and nothing does that a reader comes to before. -/
structure FirstAt (t : Tree α) (test : Tree α → Prop) (place : Place) (inner : Tree α) : Prop where
  found : t.at? place = some inner
  passes : test inner
  first : ∀ earlier other, t.at? earlier = some other → earlier < place → ¬ test other

private theorem firstAt_congr {t inner : Tree α} {test other : Tree α → Prop} {place : Place}
    (same : ∀ inner, test inner ↔ other inner) : t.FirstAt test place inner ↔ t.FirstAt other place inner := by
  rw [funext fun inner => propext (same inner)]

/-- The first answer of a walk is that of the first subtree which gives one. -/
theorem findSome?_subtrees {t : Tree α} {look : Tree α → Option β} {answer : β} :
    t.subtrees.findSome? look = some answer ↔
      ∃ place inner, t.FirstAt (fun other => ∃ given, look other = some given) place inner ∧ look inner = some answer := by
  rw [← map_snd_outline_eq_subtrees, List.findSome?_map, findSome?_eq_some_of_rising (pairwise_outline t)]
  constructor
  · rintro ⟨⟨place, inner⟩, listed, told, silent⟩
    refine ⟨place, inner, ⟨mem_outline.mp listed, ⟨answer, told⟩, fun earlier other found before => ?_⟩, told⟩
    rintro ⟨given, gives⟩
    cases gives.symm.trans (silent (earlier, other) (mem_outline.mpr found) before)
  · rintro ⟨place, inner, ⟨found, -, first⟩, told⟩
    refine ⟨(place, inner), mem_outline.mpr found, told, ?_⟩
    rintro ⟨earlier, other⟩ listed before
    exact Option.eq_none_iff_forall_ne_some.mpr fun given gives => first earlier other (mem_outline.mp listed) before ⟨given, gives⟩

private theorem findSome?_subtrees_eq_none {t : Tree α} {look : Tree α → Option β} :
    t.subtrees.findSome? look = none ↔ ∀ place inner, t.at? place = some inner → look inner = none := by
  rw [List.findSome?_eq_none_iff, forall_mem_subtrees_iff]

private theorem find?_subtrees {t inner : Tree α} {test : Tree α → Bool} :
    t.subtrees.find? test = some inner ↔ ∃ place, t.FirstAt (test · = true) place inner := by
  have passing : ∀ other, (∃ given, Option.guard test other = some given) ↔ test other = true := by simp
  rw [List.find?_eq_findSome?_guard, findSome?_subtrees]
  simp only [firstAt_congr passing]
  constructor
  · rintro ⟨place, other, first, same⟩
    obtain rfl := (Option.guard_eq_some_iff.mp same).1
    exact ⟨place, first⟩
  · rintro ⟨place, first⟩
    exact ⟨place, inner, first, Option.guard_eq_some_iff.mpr ⟨rfl, first.passes⟩⟩

/-- Values that a walk meets, each listed once, are in the order of the subtrees which have them first. -/
theorem eraseDups_subtrees [DecidableEq β] (t : Tree α) (f : Tree α → β) :
    ∃ firsts : List (Place × Tree α), firsts.Pairwise (·.1 < ·.1) ∧
      (∀ place inner, (place, inner) ∈ firsts ↔ t.FirstAt (f · = f inner) place inner) ∧
      (t.subtrees.map f).eraseDups = firsts.map fun entry => f entry.2 := by
  obtain ⟨firsts, kept, told, same⟩ := eraseDups_map_of_rising (pairwise_outline t) fun entry => f entry.2
  refine ⟨firsts, (pairwise_outline t).sublist kept, fun place inner => ?_, ?_⟩
  · rw [told, mem_outline]
    constructor
    · rintro ⟨found, apart⟩
      exact ⟨found, rfl, fun earlier other stands before => apart (earlier, other) (mem_outline.mpr stands) before⟩
    · rintro ⟨found, -, first⟩
      exact ⟨found, fun other listed before => first other.1 other.2 (mem_outline.mp listed) before⟩
  · rw [← same, ← map_snd_outline_eq_subtrees, List.map_map]
    rfl

end Tree

theorem Layer.text?_eq_some_iff {layer : Layer} {text : String} :
    layer.text? = some text ↔ layer.textContent = some text ∧ text ≠ "" := by
  rw [Layer.text?, Option.filter_eq_some_iff, Bool.not_eq_true', ← Bool.not_eq_true, String.isEmpty_iff]

namespace Node

variable {node : Node}

/-- The layer at the root has a text that is not empty. -/
def HasText (node : Node) : Prop := ∃ text, node.value.textContent = some text ∧ text ≠ ""

private theorem find?_eq_some_iff {id : String} {inner : Node} :
    node.find? id = some inner ↔ ∃ place, node.FirstAt (·.value.id = id) place inner := by
  rw [find?, Tree.find?_subtrees]
  simp only [decide_eq_true_iff]

private theorem find?_eq_none_iff_at? {id : String} :
    node.find? id = none ↔ ∀ place inner, node.at? place = some inner → inner.value.id ≠ id := by
  rw [find?, List.find?_eq_none, Tree.forall_mem_subtrees_iff]
  simp only [decide_eq_true_iff]

theorem firstText?_eq_findSome? (node : Node) : node.firstText? = node.subtrees.findSome? (·.value.text?) := by
  rw [firstText?, Tree.values, List.findSome?_map]
  rfl

private theorem firstText?_eq_some_iff {text : String} :
    node.firstText? = some text ↔ ∃ place inner, node.FirstAt HasText place inner ∧ inner.value.textContent = some text := by
  rw [firstText?_eq_findSome?, Tree.findSome?_subtrees]
  simp only [Layer.text?_eq_some_iff]
  constructor
  · rintro ⟨place, inner, first, told, -⟩
    exact ⟨place, inner, first, told⟩
  · rintro ⟨place, inner, first, told⟩
    obtain ⟨given, gives, filled⟩ := first.passes
    obtain rfl : given = text := Option.some.inj (gives.symm.trans told)
    exact ⟨place, inner, first, told, filled⟩

private theorem firstText?_eq_none_iff :
    node.firstText? = none ↔ ∀ place inner, node.at? place = some inner → ¬ HasText inner := by
  rw [firstText?_eq_findSome?, Tree.findSome?_subtrees_eq_none]
  simp only [Option.eq_none_iff_forall_ne_some, ne_eq, Layer.text?_eq_some_iff, HasText, not_exists]

private theorem containsInteractive_iff :
    node.containsInteractive = true ↔ ∃ place inner, node.at? place = some inner ∧ inner.value.isInteractive = true := by
  rw [containsInteractive, Tree.values, List.any_map, List.any_eq_true, Tree.exists_mem_subtrees_iff]
  rfl

theorem roles_eq_eraseDups (node : Node) : node.roles = (node.subtrees.map (·.value.role)).eraseDups := by
  rw [roles, firstAppearances_eq_eraseDups, Tree.values, List.map_map]
  rfl

private theorem mem_roles_iff {role : Role} :
    role ∈ node.roles ↔ ∃ place inner, node.at? place = some inner ∧ inner.value.role = role := by
  rw [roles_eq_eraseDups, List.mem_eraseDups, List.mem_map, Tree.exists_mem_subtrees_iff]

/-- A walk over a design ends and comes to the layer at each place once. Places are ordered as words, so a
parent comes before what is inside it and children come in their order; what is asked for by walking is
what stands first in that order. -/
structure IsReadInOrder (node : Node) : Prop where
  walked : ∀ visited, (Tree.Walk.start node).Visits visited ↔ visited = node.subtrees
  counted : node.subtrees.length = node.size
  preorder : node.subtrees = node.preorder
  outlined : node.subtrees = node.outline.map Prod.snd
  ordered : node.outline.Pairwise (·.1 < ·.1)
  complete : ∀ place inner, (place, inner) ∈ node.outline ↔ node.at? place = some inner
  named : ∀ id inner, node.find? id = some inner ↔ ∃ place, node.FirstAt (·.value.id = id) place inner
  unnamed : ∀ id, node.find? id = none ↔ ∀ place inner, node.at? place = some inner → inner.value.id ≠ id
  text : ∀ text, node.firstText? = some text ↔
    ∃ place inner, node.FirstAt HasText place inner ∧ inner.value.textContent = some text
  textless : node.firstText? = none ↔ ∀ place inner, node.at? place = some inner → ¬ HasText inner
  interactive : node.containsInteractive = true ↔ ∃ place inner, node.at? place = some inner ∧ inner.value.isInteractive = true
  roles : ∃ firsts : List (Place × Node), firsts.Pairwise (·.1 < ·.1) ∧
    (∀ place inner, (place, inner) ∈ firsts ↔ node.FirstAt (·.value.role = inner.value.role) place inner) ∧
    node.roles = firsts.map (·.2.value.role)
  distinct : node.roles.Nodup
  used : ∀ role, role ∈ node.roles ↔ ∃ place inner, node.at? place = some inner ∧ inner.value.role = role

/-- Walking with a stack is reading in order, whatever the design. -/
theorem isReadInOrder (node : Node) : node.IsReadInOrder where
  walked := fun _ => Tree.Walk.visits_start_iff
  counted := Tree.length_subtrees node
  preorder := Tree.subtrees_eq_preorder node
  outlined := (Tree.map_snd_outline_eq_subtrees node).symm
  ordered := Tree.pairwise_outline node
  complete := fun _ _ => Tree.mem_outline
  named := fun _ _ => find?_eq_some_iff
  unnamed := fun _ => find?_eq_none_iff_at?
  text := fun _ => firstText?_eq_some_iff
  textless := firstText?_eq_none_iff
  interactive := containsInteractive_iff
  roles := roles_eq_eraseDups node ▸ Tree.eraseDups_subtrees node (·.value.role)
  distinct := roles_eq_eraseDups node ▸ nodup_eraseDups _
  used := fun _ => mem_roles_iff

end Node

end Handoff
