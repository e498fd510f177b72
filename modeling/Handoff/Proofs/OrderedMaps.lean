import Handoff.Design.Node
import Mathlib.Data.List.Induction
import Mathlib.Data.List.Nodup

/-! Laws of maps that remember the order of their keys. What is stored is found again, and maps
that are made in steps are given by their keys, each of them once, and a value for each key. -/

namespace Handoff

theorem eraseDups_concat {α : Type} [DecidableEq α] (values : List α) (last : α) :
    (values ++ [last]).eraseDups = if last ∈ values then values.eraseDups else values.eraseDups ++ [last] := by
  rw [List.eraseDups_append]
  split
  next known => simp [List.removeAll, known]
  next fresh => simp [List.removeAll, fresh, List.eraseDups_cons]

theorem nodup_eraseDups {α : Type} [DecidableEq α] (values : List α) : values.eraseDups.Nodup := by
  induction values using List.reverseRecOn with
  | nil => exact List.nodup_nil
  | append_singleton values last ih =>
    rw [eraseDups_concat]
    split
    next => exact ih
    next fresh => exact List.concat_eq_append ▸ (List.nodup_concat _ _).mpr ⟨by simpa using fresh, ih⟩

theorem eraseDups_of_nodup {α : Type} [DecidableEq α] {values : List α} (distinct : values.Nodup) : values.eraseDups = values := by
  induction values using List.reverseRecOn with
  | nil => rfl
  | append_singleton values last ih =>
    obtain ⟨distinct, -, apart⟩ := List.nodup_append.mp distinct
    have fresh : last ∉ values := fun known => apart last known last List.mem_cons_self rfl
    rw [eraseDups_concat, if_neg fresh, ih distinct]

theorem firstAppearances_eq_eraseDups {α : Type} [DecidableEq α] (values : List α) : firstAppearances values = values.eraseDups := by
  induction values using List.reverseRecOn with
  | nil => rfl
  | append_singleton values last ih =>
    rw [firstAppearances, List.foldl_append, ← firstAppearances, ih, eraseDups_concat]
    simp only [List.foldl_cons, List.foldl_nil, List.mem_eraseDups]

namespace OrderedMap

variable {α β : Type} [DecidableEq α]

theorem mem_put_iff {key : α} {value : β} {entries : List (α × β)} (distinct : (entries.map Prod.fst).Nodup)
    {entry : α × β} : entry ∈ put key value entries ↔ entry = (key, value) ∨ entry ∈ entries ∧ entry.1 ≠ key := by
  induction entries with
  | nil => simp [put]
  | cons first rest ih =>
    rw [List.map_cons, List.nodup_cons] at distinct
    rw [put]
    split
    next same =>
      have others : ∀ other ∈ rest, other.1 ≠ key := fun other member known =>
        distinct.1 (same ▸ known ▸ List.mem_map_of_mem member)
      constructor
      · rintro (_ | ⟨_, member⟩)
        · exact .inl rfl
        · exact .inr ⟨List.mem_cons_of_mem _ member, others entry member⟩
      · rintro (rfl | ⟨member, different⟩)
        · exact List.mem_cons_self
        · rcases List.mem_cons.mp member with rfl | later
          · exact absurd same different
          · exact List.mem_cons_of_mem _ later
    next different =>
      rw [List.mem_cons, ih distinct.2, List.mem_cons]
      constructor
      · rintro (rfl | stored | ⟨later, other⟩)
        · exact .inr ⟨.inl rfl, different⟩
        · exact .inl stored
        · exact .inr ⟨.inr later, other⟩
      · rintro (stored | ⟨rfl | later, other⟩)
        · exact .inr (.inl stored)
        · exact .inl rfl
        · exact .inr (.inr ⟨later, other⟩)

theorem get?_eq_some_iff {map : OrderedMap α β} {key : α} {value : β} :
    map.get? key = some value ↔ (key, value) ∈ map.entries := by
  obtain ⟨entries, distinct⟩ := map
  simp only [get?, Option.map_eq_some_iff]
  constructor
  · rintro ⟨entry, found, rfl⟩
    have same : entry.1 = key := by simpa using List.find?_some found
    exact same ▸ List.mem_of_find?_eq_some found
  · intro member
    cases found : entries.find? (·.1 = key) with
    | none => simpa using List.find?_eq_none.mp found _ member
    | some entry =>
      have same : entry.1 = key := by simpa using List.find?_some found
      have stored := List.inj_on_of_nodup_map distinct (List.mem_of_find?_eq_some found) member same
      exact ⟨entry, rfl, congrArg Prod.snd stored⟩

theorem get?_insert (map : OrderedMap α β) (key : α) (value : β) (other : α) :
    (map.insert key value).get? other = if other = key then some value else map.get? other := by
  apply Option.ext
  intro found
  rw [get?_eq_some_iff]
  refine (mem_put_iff map.distinct).trans ?_
  split
  next same => simp [same, eq_comm]
  next different => simp [different, get?_eq_some_iff]

theorem mem_of_mem_foldl_insert {pairs : List (α × β)} {map : OrderedMap α β} {entry : α × β}
    (member : entry ∈ (pairs.foldl (fun map (key, value) => map.insert key value) map).entries) :
    entry ∈ map.entries ∨ entry ∈ pairs := by
  induction pairs generalizing map with
  | nil => exact .inl member
  | cons pair pairs ih =>
    rcases ih member with early | late
    · rcases (mem_put_iff map.distinct).mp early with rfl | ⟨stored, -⟩
      · exact .inr List.mem_cons_self
      · exact .inl stored
    · exact .inr (List.mem_cons_of_mem _ late)

theorem mem_of_mem_ofList {pairs : List (α × β)} {entry : α × β} (member : entry ∈ (ofList pairs).entries) : entry ∈ pairs :=
  (mem_of_mem_foldl_insert member).resolve_left List.not_mem_nil

theorem ofList_concat (pairs : List (α × β)) (last : α × β) : ofList (pairs ++ [last]) = (ofList pairs).insert last.1 last.2 := by
  rw [ofList, List.foldl_append]
  rfl

/-- The keys of a map that is made in steps, in the order in which they first came. -/
theorem keys_ofList (pairs : List (α × β)) : (ofList pairs).entries.map Prod.fst = (pairs.map Prod.fst).eraseDups := by
  induction pairs using List.reverseRecOn with
  | nil => rfl
  | append_singleton pairs last ih =>
    rw [ofList_concat, List.map_append, List.map_singleton, eraseDups_concat, ← ih]
    refine (keys_put _ _ _).trans ?_
    simp only [ih, List.mem_eraseDups]

/-- Of several values that are stored under a key, the last one is found. -/
theorem get?_ofList (pairs : List (α × β)) (key : α) :
    (ofList pairs).get? key = (pairs.reverse.find? (·.1 = key)).map Prod.snd := by
  induction pairs using List.reverseRecOn with
  | nil => rfl
  | append_singleton pairs last ih =>
    rw [ofList_concat, get?_insert, ih, List.reverse_concat, List.find?_cons]
    by_cases same : key = last.1
    · rw [if_pos same, decide_eq_true same.symm, Option.map_some]
    · rw [if_neg same, decide_eq_false (Ne.symm same)]

theorem get?_ofList_eq_some_iff {pairs : List (α × β)} {key : α} {value : β} :
    (ofList pairs).get? key = some value ↔
      ∃ before behind, pairs = before ++ (key, value) :: behind ∧ ∀ other ∈ behind, other.1 ≠ key := by
  rw [get?_ofList, Option.map_eq_some_iff]
  constructor
  · rintro ⟨pair, found, rfl⟩
    obtain ⟨same, behind, before, split, others⟩ := List.find?_eq_some_iff_append.mp found
    refine ⟨before.reverse, behind.reverse, ?_, fun other member => ?_⟩
    · rw [← List.reverse_reverse pairs, split, ← of_decide_eq_true same]
      simp
    · simpa using others other (List.mem_reverse.mp member)
  · rintro ⟨before, behind, rfl, others⟩
    refine ⟨(key, value), List.find?_eq_some_iff_append.mpr ⟨decide_eq_true rfl, behind.reverse, before.reverse, ?_, ?_⟩, rfl⟩
    · simp
    · intro other member
      simpa using others other (List.mem_reverse.mp member)

private theorem put_of_absent {key : α} {value : β} {entries : List (α × β)} (absent : key ∉ entries.map Prod.fst) :
    put key value entries = entries ++ [(key, value)] := by
  induction entries with
  | nil => rfl
  | cons entry rest ih =>
    rw [List.map_cons, List.mem_cons, not_or] at absent
    rw [put, if_neg (Ne.symm absent.1), ih absent.2, List.cons_append]

theorem entries_foldl_insert (pairs : List (α × β)) (map : OrderedMap α β)
    (distinct : ((map.entries ++ pairs).map Prod.fst).Nodup) :
    (pairs.foldl (fun map (key, value) => map.insert key value) map).entries = map.entries ++ pairs := by
  induction pairs generalizing map with
  | nil => simp
  | cons pair pairs ih =>
    have absent : pair.1 ∉ map.entries.map Prod.fst := by
      rw [List.map_append, List.map_cons, List.nodup_append] at distinct
      exact fun inside => distinct.2.2 _ inside _ List.mem_cons_self rfl
    have entries : (map.insert pair.1 pair.2).entries = map.entries ++ [pair] := put_of_absent absent
    rw [List.foldl_cons, ih (map.insert pair.1 pair.2) (by rw [entries]; simpa using distinct), entries]
    simp

omit [DecidableEq α] in
theorem eq_of_entries {first second : OrderedMap α β} (same : first.entries = second.entries) : first = second := by
  cases first
  cases second
  cases same
  rfl

theorem ofList_entries (map : OrderedMap α β) : ofList map.entries = map :=
  eq_of_entries (entries_foldl_insert map.entries empty map.distinct)

/-- A value may be stored under a key as if the whole map had been made anew. -/
theorem put_graph {keys : List α} {before after : α → β} {key : α}
    (distinct : keys.Nodup) (same : ∀ other, other ≠ key → after other = before other) :
    put key (after key) (keys.map fun known => (known, before known)) =
      (if key ∈ keys then keys else keys ++ [key]).map fun known => (known, after known) := by
  induction keys with
  | nil => rfl
  | cons first rest ih =>
    obtain ⟨fresh, distinct⟩ := List.nodup_cons.mp distinct
    rw [List.map_cons, put]
    split
    next found =>
      subst found
      rw [if_pos List.mem_cons_self, List.map_cons]
      congr 1
      refine List.map_congr_left fun other member => ?_
      rw [same other]
      rintro rfl
      exact fresh member
    next different =>
      have found : key ∈ first :: rest ↔ key ∈ rest := by simp [Ne.symm different]
      rw [ih distinct, ← same first different]
      simp only [found]
      split <;> rfl

/-- A map of the values that a function has at some keys. -/
theorem entries_ofList_graph (keys : List α) (value : α → β) :
    (ofList (keys.map fun key => (key, value key))).entries = keys.eraseDups.map fun key => (key, value key) := by
  induction keys using List.reverseRecOn with
  | nil => rfl
  | append_singleton keys last ih =>
    rw [List.map_append, List.map_singleton, ofList_concat]
    change put last (value last) (ofList _).entries = _
    rw [ih, put_graph (nodup_eraseDups keys) fun _ _ => rfl, eraseDups_concat]
    simp only [List.mem_eraseDups]

end OrderedMap

end Handoff
