/-!
Maps that remember the order in which their keys first came. Main statement: storing a value under a
key leaves the keys as they are when the key is known, and puts it last when it is new.
-/
namespace Handoff

/-- A list of entries whose keys are pairwise distinct. -/
structure OrderedMap (α : Type) (β : Type) where
  entries : List (α × β)
  distinct : (entries.map Prod.fst).Nodup
  deriving DecidableEq

namespace OrderedMap

variable {α β : Type} [DecidableEq α]

/-- Entries with a value stored under a key: in the key's place, or at the end. -/
def put (key : α) (value : β) : List (α × β) → List (α × β)
  | [] => [(key, value)]
  | entry :: rest => if entry.1 = key then (key, value) :: rest else entry :: put key value rest

theorem keys_put (key : α) (value : β) (entries : List (α × β)) :
    (put key value entries).map Prod.fst =
      if key ∈ entries.map Prod.fst then entries.map Prod.fst
      else entries.map Prod.fst ++ [key] := by
  induction entries with
  | nil => rfl
  | cons entry rest ih => grind [put]

def empty : OrderedMap α β := ⟨[], List.nodup_nil⟩

def insert (map : OrderedMap α β) (key : α) (value : β) : OrderedMap α β where
  entries := put key value map.entries
  distinct := by
    rw [keys_put]
    split
    · exact map.distinct
    · rename_i new
      refine List.nodup_append.2 ⟨map.distinct, by simp, fun known member other last same => new ?_⟩
      rw [List.mem_singleton] at last
      exact last ▸ same ▸ member

/-- The map that stores pairs one after the other, so that the last value of a key stays. -/
def ofList (pairs : List (α × β)) : OrderedMap α β :=
  pairs.foldl (fun map (key, value) => map.insert key value) empty

def get? (map : OrderedMap α β) (key : α) : Option β :=
  (map.entries.find? (·.1 = key)).map Prod.snd

def keys (map : OrderedMap α β) : List α := map.entries.map Prod.fst

end OrderedMap

end Handoff
