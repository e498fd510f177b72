/-!
Ordered trees with a value at every node, and the ways of walking and changing them that the rest of
the library shares. Main statement: walking a tree with a list of pending subtrees visits a node
before its children and the children in order.
-/
namespace Handoff

/-- A value with the trees below it, in order. -/
inductive Tree (α : Type) where
  | node (value : α) (children : List (Tree α))

namespace Tree

variable {α β : Type}

def value : Tree α → α
  | .node value _ => value

def children : Tree α → List (Tree α)
  | .node _ children => children

def isLeaf (t : Tree α) : Bool := t.children.isEmpty

mutual

def decEq [DecidableEq α] : (a b : Tree α) → Decidable (a = b)
  | .node v cs, .node w ds =>
    if same : v = w then
      match decEqAll cs ds with
      | .isTrue h => .isTrue (by rw [same, h])
      | .isFalse h => .isFalse fun equal => h (by injection equal)
    else .isFalse fun equal => same (by injection equal)

def decEqAll [DecidableEq α] : (as bs : List (Tree α)) → Decidable (as = bs)
  | [], [] => .isTrue rfl
  | [], _ :: _ => .isFalse nofun
  | _ :: _, [] => .isFalse nofun
  | a :: as, b :: bs =>
    match decEq a b, decEqAll as bs with
    | .isTrue h, .isTrue k => .isTrue (by rw [h, k])
    | .isFalse h, _ => .isFalse fun equal => h (by injection equal)
    | _, .isFalse k => .isFalse fun equal => k (by injection equal)

end

instance [DecidableEq α] : DecidableEq (Tree α) := decEq

mutual

def size : Tree α → Nat
  | .node _ children => 1 + sizeAll children

def sizeAll : List (Tree α) → Nat
  | [] => 0
  | t :: ts => size t + sizeAll ts

end

mutual

/-- The subtrees in the order of a reader: a node before its children, children in order. -/
def preorder : Tree α → List (Tree α)
  | .node value children => .node value children :: preorderAll children

def preorderAll : List (Tree α) → List (Tree α)
  | [] => []
  | t :: ts => preorder t ++ preorderAll ts

end

mutual

/-- The tree of the same shape with every value changed by a function. -/
def map (f : α → β) : Tree α → Tree β
  | .node value children => .node (f value) (mapAll f children)

def mapAll (f : α → β) : List (Tree α) → List (Tree β)
  | [] => []
  | t :: ts => map f t :: mapAll f ts

end

mutual

/-- The tree without the subtrees below its root that fail a test, each tested as it was given. -/
def prune (keep : Tree α → Bool) : Tree α → Tree α
  | .node value children => .node value (pruneAll keep children)

def pruneAll (keep : Tree α → Bool) : List (Tree α) → List (Tree α)
  | [] => []
  | t :: ts => if keep t then prune keep t :: pruneAll keep ts else pruneAll keep ts

end

theorem sizeAll_append (ts us : List (Tree α)) : sizeAll (ts ++ us) = sizeAll ts + sizeAll us := by
  induction ts with
  | nil => simp [sizeAll]
  | cons t ts ih => simp [sizeAll, ih, Nat.add_assoc]

/-- Visits the pending trees: the first one, then what is below it, then the others. -/
def visit : List (Tree α) → List (Tree α)
  | [] => []
  | .node value children :: pending => .node value children :: visit (children ++ pending)
termination_by pending => sizeAll pending
decreasing_by simp [sizeAll, size, sizeAll_append]

/-- The subtrees of a tree in the order they are visited. -/
def subtrees (t : Tree α) : List (Tree α) := visit [t]

/-- The values of a tree in the order they are visited. -/
def values (t : Tree α) : List α := t.subtrees.map value

mutual

theorem visit_cons (t : Tree α) (pending : List (Tree α)) :
    visit (t :: pending) = preorder t ++ visit pending := by
  cases t with
  | node value children => rw [visit, preorder, List.cons_append, visit_append children pending]

theorem visit_append (ts pending : List (Tree α)) :
    visit (ts ++ pending) = preorderAll ts ++ visit pending := by
  cases ts with
  | nil => rfl
  | cons t ts =>
    rw [List.cons_append, visit_cons t, visit_append ts pending, preorderAll, List.append_assoc]

end

theorem subtrees_eq_preorder (t : Tree α) : t.subtrees = t.preorder := by
  rw [subtrees, visit_cons, visit, List.append_nil]

end Tree

end Handoff
