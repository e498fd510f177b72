import Handoff.Proofs.Trees
import Mathlib.Data.List.Lex
import Mathlib.Data.Set.Function

/-! Places in trees: the children that are passed on the way down from the root. Places are
ordered as words are, so that a node comes before all that is below it and children come in
their order, as for a reader. Pruning moves what it keeps from place to place without
changing what is above it and what comes first. -/

namespace Handoff

section Kept

variable {α : Type} (keep : α → Bool)

/-- Where in a list it stood before the others were filtered out. -/
def keptIndex : List α → Nat → Nat
  | [], i => i
  | first :: rest, 0 => if keep first then 0 else keptIndex rest 0 + 1
  | first :: rest, i + 1 => if keep first then keptIndex rest i + 1 else keptIndex rest (i + 1) + 1

theorem keptIndex_of_not {first : α} (dropped : ¬keep first = true) (rest : List α) (i : Nat) :
    keptIndex keep (first :: rest) i = keptIndex keep rest i + 1 := by
  cases i <;> rw [keptIndex, if_neg dropped]

theorem getElem?_filter (values : List α) (i : Nat) : (values.filter keep)[i]? = values[keptIndex keep values i]? := by
  induction values generalizing i with
  | nil => rfl
  | cons first rest ih =>
    by_cases stays : keep first = true
    · rw [List.filter_cons_of_pos stays]
      cases i with
      | zero => rw [keptIndex, if_pos stays]; rfl
      | succ i => rw [keptIndex, if_pos stays]; exact ih i
    · rw [List.filter_cons_of_neg stays, keptIndex_of_not keep stays]
      exact ih i

private theorem strictMono_keptIndex (values : List α) : StrictMono (keptIndex keep values) := by
  induction values with
  | nil => exact fun _ _ less => less
  | cons first rest ih =>
    intro i j less
    obtain ⟨j, rfl⟩ := Nat.exists_eq_add_one_of_ne_zero (Nat.ne_zero_of_lt less)
    by_cases stays : keep first = true
    · cases i with
      | zero =>
        rw [keptIndex, keptIndex, if_pos stays, if_pos stays]
        exact Nat.succ_pos _
      | succ i =>
        rw [keptIndex, keptIndex, if_pos stays, if_pos stays]
        exact Nat.succ_lt_succ (ih (Nat.lt_of_succ_lt_succ less))
    · rw [keptIndex_of_not keep stays, keptIndex_of_not keep stays]
      exact Nat.succ_lt_succ (ih less)

/-- Nothing that passes the test is filtered out. -/
theorem exists_keptIndex {values : List α} {j : Nat} {value : α} (found : values[j]? = some value) (kept : keep value = true) :
    ∃ i, keptIndex keep values i = j := by
  induction values generalizing j with
  | nil => cases found
  | cons first rest ih =>
    cases j with
    | zero =>
      obtain rfl : first = value := Option.some.inj found
      exact ⟨0, by rw [keptIndex, if_pos kept]⟩
    | succ j =>
      obtain ⟨i, same⟩ := ih found
      by_cases stays : keep first = true
      · exact ⟨i + 1, by rw [keptIndex, if_pos stays, same]⟩
      · exact ⟨i, by rw [keptIndex_of_not keep stays, same]⟩

end Kept

/-- The children that are passed on the way from the root of a tree to a node. -/
abbrev Place := List Nat

namespace Tree

variable {α β : Type}

def at? : Tree α → Place → Option (Tree α)
  | t, [] => some t
  | t, i :: place => t.children[i]?.bind fun child => child.at? place

/-- The places at which a tree has nodes. -/
def places (t : Tree α) : Set Place := { place | (t.at? place).isSome }

/-- The places at which nothing fails a test, neither there nor on the way, the root apart. -/
def keptPlaces (keep : Tree α → Bool) (t : Tree α) : Set Place :=
  { place | ∀ way, way <+: place → way ≠ [] → ∃ inner, t.at? way = some inner ∧ keep inner = true }

/-- Where in a tree it stood before the tree was pruned. -/
def origin (keep : Tree α → Bool) : Tree α → Place → Place
  | _, [] => []
  | t, i :: place =>
    keptIndex keep t.children i ::
      match t.children[keptIndex keep t.children i]? with
      | some child => origin keep child place
      | none => place

theorem cons_mem_places {t : Tree α} {i : Nat} {place : Place} :
    i :: place ∈ t.places ↔ ∃ child, t.children[i]? = some child ∧ place ∈ child.places := by
  simp only [places, Set.mem_ofPred_eq, at?, Option.isSome_iff_exists, Option.bind_eq_some_iff]
  constructor
  · rintro ⟨inner, child, found, below⟩
    exact ⟨child, found, inner, below⟩
  · rintro ⟨child, found, inner, below⟩
    exact ⟨inner, child, found, below⟩

theorem at?_map (f : α → β) (t : Tree α) (place : Place) : (t.map f).at? place = (t.at? place).map (map f) := by
  induction place generalizing t with
  | nil => rfl
  | cons i place ih =>
    cases t with
    | node value children =>
      rw [map_node, at?, at?, Tree.children, Tree.children, List.getElem?_map]
      cases children[i]? with
      | none => rfl
      | some child => exact ih child

section Pruned

variable (keep : Tree α → Bool) (t : Tree α)

theorem at?_prune (place : Place) : (t.prune keep).at? place = (t.at? (origin keep t place)).map (prune keep) := by
  induction place generalizing t with
  | nil => rfl
  | cons i place ih =>
    rw [at?, origin, at?, children_prune, List.getElem?_map, getElem?_filter]
    cases t.children[keptIndex keep t.children i]? with
    | none => rfl
    | some child => exact ih child

theorem strictMono_origin : StrictMono (origin keep t) := by
  intro first second less
  induction first generalizing t second with
  | nil =>
    cases second with
    | nil => cases less
    | cons j second => exact List.nil_lt_cons _ _
  | cons i first ih =>
    cases second with
    | nil => cases less
    | cons j second =>
      rw [origin, origin]
      rcases List.cons_lt_cons_iff.mp less with before | ⟨rfl, below⟩
      · exact List.cons_lt_cons_iff.mpr (.inl (strictMono_keptIndex keep t.children before))
      · refine List.cons_lt_cons_iff.mpr (.inr ⟨rfl, ?_⟩)
        cases t.children[keptIndex keep t.children i]? with
        | none => exact below
        | some child => exact ih child below

/-- What was one step below a place is one step below it still. -/
theorem origin_concat (place : Place) (i : Nat) : ∃ j, origin keep t (place ++ [i]) = origin keep t place ++ [j] := by
  induction place generalizing t with
  | nil =>
    refine ⟨keptIndex keep t.children i, ?_⟩
    rw [List.nil_append, origin, origin, List.nil_append]
    cases t.children[keptIndex keep t.children i]? <;> rfl
  | cons k place ih =>
    rw [List.cons_append, origin, origin]
    cases t.children[keptIndex keep t.children k]? with
    | none => exact ⟨i, rfl⟩
    | some child =>
      obtain ⟨j, same⟩ := ih child
      exact ⟨j, congrArg _ same⟩

theorem cons_mem_keptPlaces {i : Nat} {place : Place} :
    i :: place ∈ t.keptPlaces keep ↔
      ∃ child, t.children[i]? = some child ∧ keep child = true ∧ place ∈ child.keptPlaces keep := by
  constructor
  · intro kept
    obtain ⟨inner, first, stays⟩ := kept [i] (List.prefix_append [i] place) (List.cons_ne_nil _ _)
    obtain ⟨child, found, same⟩ := Option.bind_eq_some_iff.mp first
    obtain rfl : child = inner := Option.some.inj same
    refine ⟨child, found, stays, fun way before nonempty => ?_⟩
    obtain ⟨inner, below, stays⟩ := kept (i :: way) (List.cons_prefix_cons.mpr ⟨rfl, before⟩) (List.cons_ne_nil _ _)
    rw [at?, found] at below
    exact ⟨inner, below, stays⟩
  · rintro ⟨child, found, stays, kept⟩ way before nonempty
    cases way with
    | nil => exact absurd rfl nonempty
    | cons j way =>
      obtain ⟨rfl, inside⟩ := List.cons_prefix_cons.mp before
      rw [at?, found]
      cases way with
      | nil => exact ⟨child, rfl, stays⟩
      | cons k way => exact kept (k :: way) inside (List.cons_ne_nil _ _)

private theorem origin_mem_keptPlaces {place : Place} (present : place ∈ (t.prune keep).places) :
    origin keep t place ∈ t.keptPlaces keep := by
  induction place generalizing t with
  | nil => exact fun way before nonempty => absurd (List.prefix_nil.mp before) nonempty
  | cons i place ih =>
    obtain ⟨left, listed, below⟩ := cons_mem_places.mp present
    rw [children_prune, List.getElem?_map] at listed
    obtain ⟨child, found, rfl⟩ := Option.map_eq_some_iff.mp listed
    have stays := (List.mem_filter.mp (List.mem_of_getElem? found)).2
    rw [getElem?_filter] at found
    rw [origin, cons_mem_keptPlaces, found]
    exact ⟨child, rfl, stays, ih child below⟩

private theorem exists_origin {place : Place} (kept : place ∈ t.keptPlaces keep) :
    ∃ left ∈ (t.prune keep).places, origin keep t left = place := by
  induction place generalizing t with
  | nil => exact ⟨[], rfl, rfl⟩
  | cons j place ih =>
    obtain ⟨child, found, stays, inner⟩ := (cons_mem_keptPlaces keep t).mp kept
    obtain ⟨i, rfl⟩ := exists_keptIndex keep found stays
    obtain ⟨left, present, rfl⟩ := ih child inner
    refine ⟨i :: left, cons_mem_places.mpr ⟨child.prune keep, ?_, present⟩, by rw [origin, found]⟩
    rw [children_prune, List.getElem?_map, getElem?_filter, found]
    rfl

/-- The nodes of a pruned tree are those that stayed, each once. -/
theorem bijOn_origin : Set.BijOn (origin keep t) (t.prune keep).places (t.keptPlaces keep) :=
  ⟨fun _ present => origin_mem_keptPlaces keep t present, (strictMono_origin keep t).injective.injOn,
    fun _ kept => exists_origin keep t kept⟩

end Pruned

end Tree

end Handoff
