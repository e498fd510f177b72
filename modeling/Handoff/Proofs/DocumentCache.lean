import Handoff.Service.Cache
import Mathlib.Data.List.Destutter
import Mathlib.Data.List.Sort
import Mathlib.Data.String.Basic

/-! The cache as a map from questions to documents. Two lists of ids make the same key when
they have the same members, and as long as nothing in the cache has expired, looking up a key
and storing under it are those of a map. -/

namespace Handoff.Service

section Sorted

variable {α : Type} [LinearOrder α]

private theorem mem_destutter'_ne (first : α) (values : List α) {value : α} :
    value ∈ values.destutter' (· ≠ ·) first ↔ value = first ∨ value ∈ values := by
  induction values generalizing first with
  | nil => simp
  | cons next values ih =>
    by_cases different : first ≠ next
    · rw [List.destutter'_cons_pos values different, List.mem_cons, ih, List.mem_cons]
    · rw [List.destutter'_cons_neg values different, ih, List.mem_cons, ← not_ne_iff.mp different, or_self_left]

/-- Dropping what repeats its neighbour loses no value. -/
theorem mem_destutter_ne {values : List α} {value : α} : value ∈ values.destutter (· ≠ ·) ↔ value ∈ values := by
  cases values with
  | nil => rfl
  | cons first values => rw [List.destutter_cons', mem_destutter'_ne, List.mem_cons]

/-- In a sorted list equal values are neighbours, so dropping what repeats its neighbour leaves each
value once. -/
theorem pairwise_destutter_ne {values : List α} (sorted : values.Pairwise (· ≤ ·)) :
    (values.destutter (· ≠ ·)).Pairwise (· < ·) := by
  have neighbours := List.isChain_destutter (· ≠ ·) values
  have sorted : (values.destutter (· ≠ ·)).IsChain (· ≤ ·) :=
    (sorted.sublist (List.destutter_sublist (· ≠ ·) values)).isChain
  refine List.IsChain.pairwise (List.isChain_iff_getElem.mpr fun i inside => ?_)
  exact lt_of_le_of_ne (sorted.getElem i inside) (neighbours.getElem i inside)

end Sorted

theorem mem_insertId {id other : String} {ids : List String} : other ∈ insertId id ids ↔ other = id ∨ other ∈ ids := by
  induction ids with
  | nil => simp [insertId]
  | cons first rest ih =>
    rw [insertId]
    split
    · exact List.mem_cons
    · split
      next same => simp [same]
      next => simp only [List.mem_cons, ih, or_left_comm]

private theorem pairwise_insertId (id : String) {ids : List String} (rising : ids.Pairwise (· < ·)) :
    (insertId id ids).Pairwise (· < ·) := by
  induction ids with
  | nil => simp [insertId]
  | cons first rest ih =>
    obtain ⟨above, tail⟩ := List.pairwise_cons.mp rising
    rw [insertId]
    split
    next before =>
      refine List.pairwise_cons.mpr ⟨?_, rising⟩
      intro other member
      rcases List.mem_cons.mp member with rfl | member
      · exact before
      · exact lt_trans before (above other member)
    next notBefore =>
      split
      next => exact rising
      next different =>
        refine List.pairwise_cons.mpr ⟨?_, ih tail⟩
        intro other member
        rcases mem_insertId.mp member with rfl | member
        · exact lt_of_le_of_ne (not_lt.mp notBefore) (Ne.symm different)
        · exact above other member

namespace CacheKey

@[simp]
theorem mem_ids_ofIds {fileKey id : String} {ids : List String} : id ∈ (ofIds fileKey ids).ids ↔ id ∈ ids := by
  induction ids with
  | nil => rfl
  | cons first rest ih =>
    change id ∈ insertId first (ofIds fileKey rest).ids ↔ _
    rw [mem_insertId, ih, List.mem_cons]

theorem pairwise_ids_ofIds (fileKey : String) (ids : List String) : (ofIds fileKey ids).ids.Pairwise (· < ·) := by
  induction ids with
  | nil => exact List.Pairwise.nil
  | cons first rest ih => exact pairwise_insertId first ih

/-- A key knows its file and which ids it has, and nothing of their order or repetitions. -/
theorem ofIds_inj {fileKey otherKey : String} {ids others : List String} :
    ofIds fileKey ids = ofIds otherKey others ↔ fileKey = otherKey ∧ ∀ id, id ∈ ids ↔ id ∈ others := by
  constructor
  · intro same
    refine ⟨congrArg CacheKey.fileKey same, fun id => ?_⟩
    rw [← @mem_ids_ofIds fileKey, same, mem_ids_ofIds]
  · rintro ⟨rfl, same⟩
    have ids : (ofIds fileKey ids).ids = (ofIds fileKey others).ids := by
      apply List.Pairwise.eq_of_mem_iff (pairwise_ids_ofIds ..) (pairwise_ids_ofIds ..)
      simpa using same
    exact congrArg (CacheKey.mk fileKey) ids

/-- Sorting the ids and then dropping each that repeats its neighbour gives the ids of a key. -/
theorem ids_ofIds (fileKey : String) (ids : List String) :
    (ofIds fileKey ids).ids = (ids.mergeSort (· ≤ ·)).destutter (· ≠ ·) := by
  have sorted := pairwise_destutter_ne (List.pairwise_mergeSort' (· ≤ ·) ids)
  refine List.Pairwise.eq_of_mem_iff (pairwise_ids_ofIds fileKey ids) sorted fun id => ?_
  rw [mem_ids_ofIds, mem_destutter_ne, List.mem_mergeSort]

/-- Keys are canonical: ids are sorted, and what then repeats its neighbour is dropped, which leaves them
rising. So keys are equal exactly when they are for one file and for the same set of ids. -/
theorem ofIds_canonical (fileKey : String) (ids : List String) :
    (ofIds fileKey ids).fileKey = fileKey ∧ (ofIds fileKey ids).ids = (ids.mergeSort (· ≤ ·)).destutter (· ≠ ·) ∧
    (ofIds fileKey ids).ids.Pairwise (· < ·) ∧
    ∀ otherKey others, ofIds fileKey ids = ofIds otherKey others ↔ fileKey = otherKey ∧ ∀ id, id ∈ ids ↔ id ∈ others :=
  ⟨rfl, ids_ofIds fileKey ids, pairwise_ids_ofIds fileKey ids, fun _ _ => ofIds_inj⟩

example : ofIds "abc" ["1:3", "1:2"] = ofIds "abc" ["1:2", "1:3", "1:2"] := by decide

end CacheKey

namespace Cache

variable {timeToLive now : Nat} {key : CacheKey} {document : Document.File} {cache : Cache} {stored : Stored}

/-- The document under a key, whatever its age. -/
def document? (cache : Cache) (key : CacheKey) : Option Document.File :=
  (cache.find? (·.key = key)).map (·.document)

def Holds (cache : Cache) (key : CacheKey) : Prop := ∃ stored ∈ cache, stored.key = key

/-- Nothing in the cache has expired. -/
def IsFresh (timeToLive now : Nat) (cache : Cache) : Prop := ∀ stored ∈ cache, isFresh timeToLive now stored = true

theorem mem_of_document? (found : cache.document? key = some document) :
    ∃ stored ∈ cache, stored.key = key ∧ stored.document = document := by
  obtain ⟨stored, present, rfl⟩ := Option.map_eq_some_iff.mp found
  exact ⟨stored, List.mem_of_find?_eq_some present, by simpa using List.find?_some present, rfl⟩

private theorem document?_eq_none : cache.document? key = none ↔ ¬ cache.Holds key := by
  simp [document?, Holds]

/-- What is found is in the cache, which stays as it is. -/
theorem lookup_hit {left : Cache} (found : lookup timeToLive now key cache = (some document, left)) :
    cache.document? key = some document ∧ left = cache := by
  rw [lookup] at found
  split at found
  · cases found
  next stored present =>
    split at found
    · cases found
      exact ⟨by rw [document?, present]; rfl, rfl⟩
    · cases found

/-- When nothing is found, nothing stays under the key. -/
theorem lookup_miss {left : Cache} (missed : lookup timeToLive now key cache = (none, left)) :
    left ⊆ cache ∧ ¬ left.Holds key := by
  rw [lookup] at missed
  split at missed
  next absent =>
    cases missed
    refine ⟨List.Subset.refl cache, ?_⟩
    rintro ⟨stored, member, same⟩
    simpa [same] using List.find?_eq_none.mp absent stored member
  next =>
    split at missed
    · cases missed
    · cases missed
      refine ⟨List.filter_subset_self cache, ?_⟩
      rintro ⟨stored, member, same⟩
      simpa [same] using List.of_mem_filter member

theorem lookup_of_fresh (fresh : cache.IsFresh timeToLive now) :
    lookup timeToLive now key cache = (cache.document? key, cache) := by
  rw [lookup, document?]
  split
  next absent => rw [absent]; rfl
  next stored present =>
    rw [if_pos (fresh stored (List.mem_of_find?_eq_some present)), present]
    rfl

theorem lookup_of_not_holds (absent : ¬ cache.Holds key) : (lookup timeToLive now key cache).1 = none := by
  rcases looked : lookup timeToLive now key cache with ⟨_ | document, left⟩
  · rfl
  · cases (document?_eq_none.mpr absent).symm.trans (lookup_hit looked).1

/-- Without any time to live, what was stored is never found again. -/
theorem lookup_zero : (lookup 0 now key cache).1 = none := by
  rw [lookup]
  split
  · rfl
  · split
    next fresh => simp [isFresh] at fresh
    next => rfl

theorem mem_store (member : stored ∈ store timeToLive now key document cache) :
    stored ∈ cache ∨ stored = ⟨key, document, now⟩ := by
  rw [store, List.mem_append, List.mem_singleton] at member
  exact member.imp_left List.mem_of_mem_filter

theorem document?_store_self (timeToLive now : Nat) (key : CacheKey) (document : Document.File) (cache : Cache) :
    (store timeToLive now key document cache).document? key = some document := by
  have absent : (cache.filter fun stored => isFresh timeToLive now stored && stored.key != key).find? (·.key = key) = none := by
    rw [List.find?_eq_none]
    intro stored member
    simpa using (Bool.and_eq_true_iff.mp (List.mem_filter.mp member).2).2
  rw [document?, store, List.find?_append, absent]
  simp

theorem document?_store_other {other : CacheKey} (fresh : cache.IsFresh timeToLive now) (different : other ≠ key) :
    (store timeToLive now key document cache).document? other = cache.document? other := by
  have last : [(⟨key, document, now⟩ : Stored)].find? (·.key = other) = none := by
    simpa using Ne.symm different
  have kept : (cache.filter fun stored => isFresh timeToLive now stored && stored.key != key).find? (·.key = other) =
      cache.find? (·.key = other) := by
    induction cache with
    | nil => rfl
    | cons first rest ih =>
      obtain ⟨good, fresh⟩ := List.forall_mem_cons.mp fresh
      by_cases same : first.key = key
      · rw [List.filter_cons_of_neg (by simp [same]), List.find?_cons_of_neg (by simpa [same] using Ne.symm different)]
        exact ih fresh
      · rw [List.filter_cons_of_pos (by simp [good, same]), List.find?_cons, List.find?_cons, ih fresh]
  rw [document?, store, List.find?_append, last, Option.or_none, kept, document?]

end Cache

end Handoff.Service
