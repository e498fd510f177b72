import Handoff.Text.Letter

/-!
Finite types whose values have names, and choices given as words. Main statement: a value is found
again by its name.
-/
namespace Handoff

/-- A type with finitely many values, each with a name of its own. -/
class Named (α : Type) where
  all : List α
  name : α → String
  complete : ∀ a, a ∈ all
  distinct : (all.map name).Nodup

namespace Named

variable {α : Type} [Named α]

def ofName? (name : String) : Option α := all.find? fun a => Named.name a = name

theorem eq_of_nodup_map {β γ : Type} {f : β → γ} {values : List β} {a b : β}
    (distinct : (values.map f).Nodup) (ha : a ∈ values) (hb : b ∈ values) (same : f a = f b) :
    a = b := by
  induction values with
  | nil => cases ha
  | cons c rest ih => grind

theorem name_injective {a b : α} (same : name a = name b) : a = b :=
  eq_of_nodup_map distinct (complete a) (complete b) same

theorem ofName?_name (a : α) : ofName? (name a) = some a := by
  unfold ofName?
  cases found : (all : List α).find? fun b => name b = name a with
  | none => exact absurd (List.find?_eq_none.1 found a (complete a)) (by simp)
  | some b => exact congrArg some (name_injective (by simpa using List.find?_some found))

end Named

/-! Spellings. A choice may have several, and the case of letters does not matter. -/

/-- A word that spells no choice of its kind. -/
structure UnknownChoice where
  kind : String
  given : String
  expected : String
  deriving DecidableEq

def UnknownChoice.message (error : UnknownChoice) : String :=
  "unknown " ++ error.kind ++ " '" ++ error.given ++ "', expected " ++ error.expected

/-- The spellings of a kind of choice, in small letters, and how its choices are listed in a
message. -/
structure Spelling (α : Type) where
  kind : String
  expected : String
  words : List (String × α)

def Spelling.read {α : Type} (spelling : Spelling α) (given : String) : Except UnknownChoice α :=
  match spelling.words.find? (·.1 = Text.lowercase given) with
  | some (_, choice) => .ok choice
  | none => .error ⟨spelling.kind, given, spelling.expected⟩

end Handoff
