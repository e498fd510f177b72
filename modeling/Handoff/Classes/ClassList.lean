/-!
Ordered lists of utility classes. An empty class is dropped and a repeated one keeps its first
place.
-/
namespace Handoff.Classes

/-- Classes in order, each once and none empty. -/
structure ClassList where
  toList : List String
  distinct : toList.Nodup
  nonempty : "" ∉ toList
  deriving DecidableEq

namespace ClassList

def empty : ClassList := ⟨[], List.nodup_nil, List.not_mem_nil⟩

def contains (classes : ClassList) (name : String) : Bool := name ∈ classes.toList

/-- The list with a class at its end, unless the class is empty or in the list already. -/
def push (classes : ClassList) (name : String) : ClassList :=
  if fresh : name = "" ∨ name ∈ classes.toList then classes
  else
    { toList := classes.toList ++ [name]
      distinct := by
        refine List.nodup_append.2 ⟨classes.distinct, by simp, fun a known b last same => fresh ?_⟩
        rw [List.mem_singleton] at last
        exact .inr (last ▸ same ▸ known)
      nonempty := by
        rw [List.mem_append, List.mem_singleton]
        rintro (known | same)
        · exact classes.nonempty known
        · exact fresh (.inl same.symm) }

def append (classes : ClassList) (names : List String) : ClassList := names.foldl push classes

def ofList (names : List String) : ClassList := empty.append names

def size (classes : ClassList) : Nat := classes.toList.length

def isEmpty (classes : ClassList) : Bool := classes.toList.isEmpty

def text (classes : ClassList) : String := String.intercalate " " classes.toList

end ClassList

end Handoff.Classes
