import Handoff.Design.Node
import Handoff.Manifest.Basic
import Handoff.Naming
import Handoff.Page.Mount

/-!
The sections of a page: those that a manifest names, or else one for each layer right below the root
that is not left out. Main statement: the names made for layers differ from each other.
-/
namespace Handoff.Site

/-- A part of a page that becomes a component. -/
structure Section where
  name : String
  node : Node
  activation : Activation
  deriving DecidableEq

/-- A section refers to a layer that the design does not have. -/
structure MissingNode where
  name : String
  nodeId : String
  deriving DecidableEq

def MissingNode.message (error : MissingNode) : String :=
  "Section '" ++ error.name ++ "' refers to node '" ++ error.nodeId
    ++ "', which is not in the design"

def namedSection (root : Node) (item : Manifest.Section) : Except MissingNode Section :=
  match Node.find? root item.nodeId with
  | some node => .ok ⟨item.name, node, item.activation.getD (Page.defaultActivation node)⟩
  | none => .error ⟨item.name, item.nodeId⟩

/-- A name, or the name with a number from two on. -/
def numbered (base : String) : Nat → String
  | 0 => base
  | n + 1 => base ++ toString (n + 2)

/-- The first numbered form of a name that is not taken. There is one among the first forms, one
more than there are names taken. -/
def freeName (taken : List String) (base : String) : String :=
  (((List.range (taken.length + 1)).map (numbered base)).find? (· ∉ taken)).getD base

theorem toString_injective {m n : Nat} (same : toString m = toString n) : m = n := by
  have values := congrArg (fun digits => Nat.ofDigitChars 10 digits.toList 0) same
  simpa only [Nat.toString_eq_ofList_toDigits, String.toList_ofList, Nat.ofDigitChars_ten_toDigits]
    using values

theorem append_toString_ne (base : String) (n : Nat) : base ++ toString n ≠ base := by
  intro same
  have digits : base.toList ++ (toString n).toList = base.toList ++ [] := by
    rw [← String.toList_append, same, List.append_nil]
  replace digits := List.append_cancel_left digits
  rw [Nat.toString_eq_ofList_toDigits, String.toList_ofList] at digits
  exact Nat.toDigits_ne_nil digits

theorem numbered_injective {base : String} {m n : Nat} (same : numbered base m = numbered base n) :
    m = n := by
  match m, n with
  | 0, 0 => rfl
  | 0, _ + 1 => exact absurd same.symm (append_toString_ne base _)
  | _ + 1, 0 => exact absurd same (append_toString_ne base _)
  | m + 1, n + 1 =>
    have := toString_injective (String.append_right_inj base |>.1 same)
    omega

theorem freeName_not_mem (taken : List String) (base : String) : freeName taken base ∉ taken := by
  unfold freeName
  cases found : ((List.range (taken.length + 1)).map (numbered base)).find? (· ∉ taken) with
  | some name => simpa using List.find?_some found
  | none =>
    rw [List.find?_eq_none] at found
    have distinct : ((List.range (taken.length + 1)).map (numbered base)).Nodup :=
      List.Pairwise.map (numbered base)
        (fun _ _ different same => different (numbered_injective same)) List.nodup_range
    have within : (List.range (taken.length + 1)).map (numbered base) ⊆ taken :=
      fun name member => by simpa using found name member
    have bounded := distinct.length_le_of_subset within
    simp only [List.length_map, List.length_range] at bounded
    omega

/-- Names for labels, each different from those before it. -/
def namesAfter (taken : List String) : List String → List String
  | [] => []
  | label :: rest =>
    let name := freeName taken (Naming.pascalCase label)
    name :: namesAfter (name :: taken) rest

theorem not_mem_of_mem_namesAfter {taken labels : List String} {name : String}
    (member : name ∈ namesAfter taken labels) : name ∉ taken := by
  induction labels generalizing taken with
  | nil => cases member
  | cons label rest ih =>
    rcases List.mem_cons.1 member with rfl | later
    · exact freeName_not_mem taken _
    · exact fun known => ih later (List.mem_cons_of_mem _ known)

theorem nodup_namesAfter (taken labels : List String) : (namesAfter taken labels).Nodup := by
  induction labels generalizing taken with
  | nil => exact List.nodup_nil
  | cons label rest ih =>
    exact List.nodup_cons.2
      ⟨fun later => not_mem_of_mem_namesAfter later List.mem_cons_self, ih _⟩

/-- One section for each layer right below the root that is not left out, called by its label. -/
def derivedSections (root : Node) : List Section :=
  let nodes := (Node.withoutDecoration root).children
  (namesAfter [] (nodes.map (·.value.name))).zipWith
    (fun name node => ⟨name, node, Page.defaultActivation node⟩) nodes

def sections (manifest : Manifest) (root : Node) : Except MissingNode (List Section) :=
  if manifest.sections.isEmpty then .ok (derivedSections root)
  else manifest.sections.mapM (namedSection root)

end Handoff.Site
