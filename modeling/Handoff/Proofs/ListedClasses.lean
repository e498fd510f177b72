import Handoff.Proofs.ClassStems
import Handoff.Proofs.PageSections

/-! The classes of a layer as a list that is written down. The classes are those of the stages
in their order, each where it comes first; they stay apart when they are written with blanks
between them; and what they say about the direction of a layer is what its layout says. -/

namespace Handoff

/-- Parts that a separator joins are found again where they are joined. -/
theorem splitOnP_intercalate {α : Type} {p : α → Bool} {separator : α} (separates : p separator = true) {parts : List (List α)}
    (nonempty : parts ≠ []) (whole : ∀ part ∈ parts, ∀ a ∈ part, p a = false) :
    ([separator].intercalate parts).splitOnP p = parts := by
  induction parts with
  | nil => exact absurd rfl nonempty
  | cons part parts ih =>
    obtain ⟨first, others⟩ := List.forall_mem_cons.mp whole
    cases parts with
    | nil => rw [List.intercalate_singleton, List.splitOnP_eq_singleton first]
    | cons next parts =>
      rw [List.intercalate_cons_cons, List.append_assoc, List.singleton_append,
        List.splitOnP_append_cons_of_forall_mem first _ separates, ih (List.cons_ne_nil _ _) others]

namespace Classes
open Text

/-- The pieces of a text between its blanks. -/
def pieces (s : String) : List String := ((s.toList.splitOnP isBlank).filter (· ≠ [])).map String.ofList

/-- Names in one piece each are the pieces of their list. -/
theorem pieces_text {classes : ClassList} (solid : ∀ name ∈ classes.toList, IsSolid name) : pieces classes.text = classes.toList := by
  by_cases none : classes.toList = []
  · rw [ClassList.text, none]
    rfl
  have nonempty : classes.toList.map String.toList ≠ [] := fun empty => none (List.map_eq_nil_iff.mp empty)
  have kept : ∀ part ∈ classes.toList.map String.toList, decide (part ≠ []) = true := by
    refine List.forall_mem_map.mpr fun name member => decide_eq_true fun empty => ?_
    exact classes.nonempty (String.toList_eq_nil_iff.mp empty ▸ member)
  calc pieces classes.text
      = ((([' '].intercalate (classes.toList.map String.toList)).splitOnP isBlank).filter (· ≠ [])).map String.ofList := by
        rw [pieces, ClassList.text, String.toList_intercalate]
        rfl
    _ = (classes.toList.map String.toList).map String.ofList := by
        rw [splitOnP_intercalate (by decide) nonempty (List.forall_mem_map.mpr solid), List.filter_eq_self.mpr kept]
    _ = classes.toList := by
        rw [List.map_map]
        exact (List.map_congr_left fun name _ => String.ofList_toList).trans (List.map_id _)

section

variable {node : Node} {tokens : Option TokenMap} {name : String}

/-- Tokens whose variables have no blanks give colours names without blanks. -/
theorem keepSolid_of_forall (solid : ∀ map ∈ tokens, ∀ token ∈ map.toList, IsSolid token.2) : KeepSolid tokens := by
  intro color name known
  obtain ⟨map, some, found⟩ := Option.bind_eq_some_iff.mp known
  exact solid map some _ (OrderedMap.get?_eq_some_iff.mp found)

/-- The stems of what says nothing about how a layer flows. -/
def otherStems : List String := flexStems ++ (fillStems ++ (lookStems ++ textStems))

theorem not_isPrefix_otherStems : ∀ stem ∈ otherStems, ∀ name ∈ ["", "flex-col", "md:flex-row"], ¬stem.toList <+: name.toList := by
  decide +kernel

/-- The classes of a layer that say how it flows, and the stems of all others. -/
theorem mem_stages_cases (member : name ∈ (nodeStages node tokens).flatten) :
    name = "flex" ∨ (name = "flex-col" ∧ (node.value.layout.direction = .vertical ∨ isStacked node = true)) ∨
      (name = "md:flex-row" ∧ node.value.layout.direction = .horizontal) ∨ HasStem tokens otherStems name := by
  have looks : lookStems ++ textStems ⊆ otherStems := List.Subset.trans (List.subset_append_right fillStems _) (List.subset_append_right _ _)
  rcases mem_nodeStages member with container | background | look | ⟨row, horizontal⟩ | ⟨-, text⟩
  · rcases mem_containerClasses container with flex | column | ⟨row, stacked⟩ | own
    · exact .inl flex
    · exact .inr (.inl column)
    · exact .inr (.inr (.inl ⟨row, of_decide_eq_true (Bool.and_eq_true_iff.mp stacked).1⟩))
    · exact .inr (.inr (.inr (own.of_subset (List.subset_append_left _ _))))
  · refine .inr (.inr (.inr ?_))
    unfold backgroundClasses at background
    split at background
    · cases background
    · have paints : fillStems ⊆ otherStems := List.Subset.trans (List.subset_append_left _ _) (List.subset_append_right flexStems _)
      exact (hasStem_fillClasses _ name background).of_subset paints
  · exact .inr (.inr (.inr (look.of_subset (List.Subset.trans (List.subset_append_left _ textStems) looks))))
  · exact .inr (.inr (.inl ⟨row, of_decide_eq_true horizontal⟩))
  · exact .inr (.inr (.inr ((hasStem_textClasses _ name text).of_subset (List.Subset.trans (List.subset_append_right lookStems _) looks))))

theorem ne_empty_of_mem_stages (member : name ∈ (nodeStages node tokens).flatten) : name ≠ "" := by
  rcases mem_stages_cases member with rfl | ⟨rfl, -⟩ | ⟨rfl, -⟩ | own
  · decide
  · decide
  · decide
  · exact own.ne (not_isPrefix_otherStems · · "" (by decide))

private theorem isSolid_of_mem_stages (solid : KeepSolid tokens) (member : name ∈ (nodeStages node tokens).flatten) :
    IsSolid name := by
  rcases mem_stages_cases member with rfl | ⟨rfl, -⟩ | ⟨rfl, -⟩ | own
  · decide
  · decide
  · decide
  · exact own.solid solid

/-- No stage has an empty class, so that none is left out. -/
theorem toList_nodeClasses (node : Node) (tokens : Option TokenMap) :
    (nodeClasses node tokens).toList = (nodeStages node tokens).flatten.eraseDups := by
  have named : ∀ name ∈ (nodeStages node tokens).flatten, decide (name ≠ "") = true :=
    fun name member => decide_eq_true (ne_empty_of_mem_stages member)
  rw [nodeClasses, ClassList.toList_ofList, List.filter_eq_self.mpr named]

theorem mem_nodeClasses_iff : name ∈ (nodeClasses node tokens).toList ↔ name ∈ (nodeStages node tokens).flatten := by
  rw [toList_nodeClasses, List.mem_eraseDups]

theorem mem_nodeClasses (stage : List String) (listed : stage ∈ nodeStages node tokens) (member : name ∈ stage) :
    name ∈ (nodeClasses node tokens).toList :=
  mem_nodeClasses_iff.mpr (List.mem_flatten.mpr ⟨stage, listed, member⟩)

private theorem row_mem_iff : "md:flex-row" ∈ (nodeClasses node tokens).toList ↔ node.value.layout.direction = .horizontal := by
  constructor
  · intro member
    rcases mem_stages_cases (mem_nodeClasses_iff.mp member) with absurd | ⟨absurd, -⟩ | ⟨-, horizontal⟩ | own
    · exact (by decide : "md:flex-row" ≠ "flex") absurd |>.elim
    · exact (by decide : "md:flex-row" ≠ "flex-col") absurd |>.elim
    · exact horizontal
    · exact absurd rfl (own.ne (not_isPrefix_otherStems · · "md:flex-row" (by decide)))
  · intro horizontal
    refine mem_nodeClasses (responsiveClasses node.value) (by simp [nodeStages]) ?_
    simp [responsiveClasses, Layout.isHorizontal, horizontal]

private theorem column_mem_iff :
    "flex-col" ∈ (nodeClasses node tokens).toList ↔ node.value.layout.direction = .vertical ∨ isStacked node = true := by
  constructor
  · intro member
    rcases mem_stages_cases (mem_nodeClasses_iff.mp member) with absurd | ⟨-, flows⟩ | ⟨absurd, -⟩ | own
    · exact (by decide : "flex-col" ≠ "flex") absurd |>.elim
    · exact flows
    · exact (by decide : "flex-col" ≠ "md:flex-row") absurd |>.elim
    · exact absurd rfl (own.ne (not_isPrefix_otherStems · · "flex-col" (by decide)))
  · intro flows
    refine mem_nodeClasses (containerClasses node) (by simp [nodeStages]) ?_
    by_cases stacked : isStacked node = true
    · simp [containerClasses, stacked]
    · have vertical := flows.resolve_right stacked
      simp [containerClasses, stacked, layoutClasses, Layout.isFlex, vertical]

private theorem stack_isPrefix (stacked : isStacked node = true) :
    ["flex", "flex-col", "md:flex-row"] <+: (nodeClasses node tokens).toList := by
  obtain ⟨rest, led⟩ : ∃ rest, (nodeStages node tokens).flatten = ["flex", "flex-col", "md:flex-row"] ++ rest := by
    rw [nodeStages, List.flatten_cons, containerClasses, if_pos stacked, List.append_assoc]
    exact ⟨_, rfl⟩
  rw [toList_nodeClasses, led, List.eraseDups_append, eraseDups_of_nodup (by decide)]
  exact List.prefix_append _ _

end

/-- Classes of a layer that are well listed, and tell its direction. -/
structure IsListing (node : Node) (tokens : Option TokenMap) (classes : ClassList) : Prop where
  distinct : classes.toList.Nodup
  solid : ∀ name ∈ classes.toList, name ≠ "" ∧ IsSolid name
  split : pieces classes.text = classes.toList
  stages : classes.toList = (nodeStages node tokens).flatten.eraseDups
  row : "md:flex-row" ∈ classes.toList ↔ node.value.layout.direction = .horizontal
  column : "flex-col" ∈ classes.toList ↔ node.value.layout.direction = .vertical ∨ isStacked node = true
  stack : isStacked node = true → ["flex", "flex-col", "md:flex-row"] <+: classes.toList

/-- A row of two texts, painted with a colour that tokens name. -/
def paintedRow : Node :=
  .node { Layer.bare "1:1" "Row" .container with
      layout := { Layout.free with direction := .horizontal, gap := 8 }
      fills := [.solid (.rgb 0x25 0x63 0xeb)] }
    [.node (.bare "2:1" "First" .text) [], .node (.bare "3:1" "Second" .text) []]

end Classes

end Handoff
