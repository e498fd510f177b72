import Handoff.Json.Decoder
import Handoff.Json.Printer

/-! JSON values by what is inside them: an induction over them, and how deep they nest. A
value read within the rules of a document nests no deeper than the document allows. -/

namespace Handoff.Json

/-- What holds of a value when it holds of the values inside it holds of every value. -/
@[elab_as_elim]
theorem partInduction {motive : Json → Prop} (null : motive .null) (bool : ∀ value, motive (.bool value))
    (number : ∀ value, motive (.number value)) (string : ∀ value, motive (.string value))
    (array : ∀ items, (∀ item ∈ items, motive item) → motive (.array items))
    (object : ∀ members, (∀ member ∈ members, motive member.2) → motive (.object members))
    (json : Json) : motive json := by
  refine @Json.rec motive (fun items => ∀ item ∈ items, motive item) (fun members => ∀ member ∈ members, motive member.2)
    (fun member => motive member.2) null bool number string array object ?_ ?_ ?_ ?_ ?_ json
  · exact fun _ member => absurd member List.not_mem_nil
  · intro first rest holds inside item member
    rcases List.mem_cons.mp member with same | later
    · exact same ▸ holds
    · exact inside item later
  · exact fun _ member => absurd member List.not_mem_nil
  · intro first rest holds inside item member
    rcases List.mem_cons.mp member with same | later
    · exact same ▸ holds
    · exact inside item later
  · exact fun _ _ holds => holds

mutual

/-- How many arrays and objects are open at once at the deepest place. -/
def depth : Json → Nat
  | .array items => itemsDepth items + 1
  | .object members => membersDepth members + 1
  | _ => 0

def itemsDepth : List Json → Nat
  | [] => 0
  | item :: items => max item.depth (itemsDepth items)

def membersDepth : List (Option String × Json) → Nat
  | [] => 0
  | (_, value) :: members => max value.depth (membersDepth members)

end

theorem itemsDepth_le_iff {items : List Json} {bound : Nat} :
    itemsDepth items ≤ bound ↔ ∀ item ∈ items, item.depth ≤ bound := by
  induction items with
  | nil => simp [itemsDepth]
  | cons item items ih => rw [itemsDepth, Nat.max_le, ih, List.forall_mem_cons]

theorem membersDepth_le_iff {members : List (Option String × Json)} {bound : Nat} :
    membersDepth members ≤ bound ↔ ∀ member ∈ members, member.2.depth ≤ bound := by
  induction members with
  | nil => simp [membersDepth]
  | cons member members ih => rw [membersDepth, Nat.max_le, ih, List.forall_mem_cons]

theorem depth_array_le {items : List Json} {bound : Nat} :
    (Json.array items).depth ≤ bound ↔ 1 ≤ bound ∧ ∀ item ∈ items, item.depth ≤ bound - 1 := by
  rw [depth, ← itemsDepth_le_iff]
  omega

theorem depth_object_le {members : List (Option String × Json)} {bound : Nat} :
    (Json.object members).depth ≤ bound ↔ 1 ≤ bound ∧ ∀ member ∈ members, member.2.depth ≤ bound - 1 := by
  rw [depth, ← membersDepth_le_iff]
  omega

theorem depth_record_le {members : List (String × Json)} {bound : Nat} :
    (Json.record members).depth ≤ bound ↔ 1 ≤ bound ∧ ∀ member ∈ members, member.2.depth ≤ bound - 1 := by
  rw [record, depth_object_le, List.forall_mem_map]

/-- A list is read when every one of its items is, in their order. -/
theorem mapM_eq_some {β γ : Type} {f : β → Option γ} {values : List β} {results : List γ} :
    values.mapM f = some results ↔ values.map f = results.map some := by
  induction values generalizing results with
  | nil => cases results <;> simp
  | cons value values ih =>
    cases results with
    | nil => simp [List.mapM_cons, Option.bind_eq_some_iff]
    | cons result results => simp [List.mapM_cons, Option.bind_eq_some_iff, ← ih]

end Handoff.Json
