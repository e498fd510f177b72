import Handoff.Manifest.Flaw
import Handoff.Proofs.NameCharacters
import Handoff.Proofs.Trees
import Handoff.Site.Section
import Mathlib.Data.List.Forall2

/-! The sections of a page. Their names differ and need no escaping, whether a manifest
gives them or labels do, and each section is about the layer it was asked for. -/

namespace Handoff

/-- A layer that shows nothing of its own. -/
def Layer.bare (id name : String) (role : Role) : Layer where
  id := id
  name := name
  role := role
  visible := true
  fills := []
  borders := []
  shadows := []
  radii := .uniform 0
  opacity := 1
  clipContent := false
  layout := .free
  dimensions := .ofSizes .auto .auto
  textContent := none
  textStyle := none
  assetUrl := none
  isInteractive := false
  interaction := none

/-- A manifest that leaves all but targets and sections as they usually are. -/
def Manifest.brief (targets : List Target) (sections : List Manifest.Section) : Manifest where
  source := ⟨"k", "0:1", defaultTokenVariable, Service.defaultBaseUrl, Service.defaultTimeToLive⟩
  output := { Output.default with targets }
  assets := .default
  tokens := []
  sections := sections

def Site.pageOf (frames : List Node) : Node := .node (.bare "0:1" "Page" .container) frames

private theorem forall₂_of_mapM {α β ε : Type} {f : α → Except ε β} {values : List α} {results : List β}
    (done : values.mapM f = .ok results) : List.Forall₂ (fun value result => f value = .ok result) values results := by
  induction values generalizing results with
  | nil => cases done; exact .nil
  | cons value values ih =>
    rw [List.mapM_cons] at done
    cases first : f value with
    | error => simp [first, bind, Except.bind] at done
    | ok result =>
      cases more : values.mapM f with
      | error => simp [first, more, bind, Except.bind] at done
      | ok rest =>
        have same : result :: rest = results := by simpa [first, more, bind, Except.bind, pure, Except.pure] using done
        exact same ▸ .cons first (ih more)

theorem Node.find?_of_unique {root node : Node} (inside : node ∈ root.subtrees)
    (unique : root.countId node.value.id = 1) : root.find? node.value.id = some node := by
  have counted : (root.subtrees.filter (·.value.id = node.value.id)).length = 1 := by
    rw [← List.countP_eq_length_filter, ← unique, Node.countId, Tree.values, List.countP_map]
    rfl
  obtain ⟨only, alone⟩ := List.length_eq_one_iff.mp counted
  have listed : node ∈ root.subtrees.filter (·.value.id = node.value.id) := List.mem_filter.mpr ⟨inside, by simp⟩
  rw [alone, List.mem_singleton] at listed
  rw [Node.find?, ← List.head?_filter, alone, listed, List.head?_cons]

theorem Node.mem_subtrees_of_child {root child : Node} (member : child ∈ root.children) : child ∈ root.subtrees := by
  cases root with
  | node layer children =>
    rw [Tree.subtrees_node]
    exact List.mem_cons_of_mem _ (List.mem_flatMap.mpr ⟨child, member, child.mem_subtrees_self⟩)

namespace Site
open Naming

theorem length_namesAfter (taken labels : List String) : (namesAfter taken labels).length = labels.length := by
  induction labels generalizing taken with
  | nil => rfl
  | cons label rest ih => rw [namesAfter, List.length_cons, ih, List.length_cons]

private theorem isPlain_numbered {base : String} (plain : IsPlain base) (n : Nat) : IsPlain (numbered base n) := by
  cases n with
  | zero => exact plain
  | succ n =>
    refine isPlain_append plain fun c digit => ?_
    rw [Nat.toString_eq_ofList_toDigits, String.toList_ofList] at digit
    have isDigit := Nat.isDigit_of_mem_toDigits (by decide) (by decide) digit
    simp [isNamePart, Char.isAlphanum, isDigit]

private theorem isPlain_freeName {base : String} (plain : IsPlain base) (taken : List String) :
    IsPlain (freeName taken base) := by
  unfold freeName
  cases found : ((List.range (taken.length + 1)).map (numbered base)).find? (· ∉ taken) with
  | none => exact plain
  | some name =>
    obtain ⟨n, -, rfl⟩ := List.mem_map.mp (List.mem_of_find?_eq_some found)
    exact isPlain_numbered plain n

private theorem isPlain_of_mem_namesAfter {taken labels : List String} {name : String} (member : name ∈ namesAfter taken labels) :
    IsPlain name := by
  induction labels generalizing taken with
  | nil => cases member
  | cons label rest ih =>
    rcases List.mem_cons.mp member with rfl | later
    · exact isPlain_freeName (isPlain_pascalCase label) taken
    · exact ih later

theorem children_withoutDecoration (root : Node) :
    root.withoutDecoration.children = (root.children.filter Node.isKept).map Node.withoutDecoration :=
  Tree.children_prune Node.isKept root

theorem names_derivedSections (root : Node) :
    (derivedSections root).map Section.name = namesAfter [] (root.withoutDecoration.children.map (·.value.name)) := by
  rw [derivedSections, List.map_zipWith, ← List.map_uncurry_zip_eq_zipWith]
  refine List.map_fst_zip (Nat.le_of_eq ?_)
  rw [length_namesAfter, List.length_map]

/-- There is one derived section for each layer that stays, with a name of its own. -/
theorem derivedSections_eq (root : Node) :
    ((derivedSections root).map Section.name).Nodup ∧ (∀ item ∈ derivedSections root, IsPlain item.name) ∧
      (derivedSections root).map Section.node = (root.children.filter Node.isKept).map Node.withoutDecoration := by
  let nodes := root.withoutDecoration.children
  let names := namesAfter [] (nodes.map (·.value.name))
  have lengths : names.length = nodes.length := by rw [length_namesAfter, List.length_map]
  have named : (derivedSections root).map Section.name = names := names_derivedSections root
  refine ⟨named ▸ nodup_namesAfter [] _, fun item member => ?_, ?_⟩
  · have listed : item.name ∈ names := named ▸ List.mem_map_of_mem member
    exact isPlain_of_mem_namesAfter listed
  · rw [derivedSections, List.map_zipWith, ← children_withoutDecoration, ← List.map_uncurry_zip_eq_zipWith]
    exact List.map_snd_zip (Nat.le_of_eq lengths.symm)

/-- Sections are the derived ones, or one for each that the manifest names. -/
theorem sections_ok {manifest : Manifest} {root : Node} {items : List Section} (found : sections manifest root = .ok items) :
    manifest.sections = [] ∧ items = derivedSections root ∨
      List.Forall₂ (fun entry item => namedSection root entry = .ok item) manifest.sections items := by
  unfold sections at found
  split at found
  next empty => exact .inl ⟨List.isEmpty_iff.mp empty, (Except.ok.inj found).symm⟩
  next => exact .inr (forall₂_of_mapM found)

theorem namedSection_ok {root : Node} {entry : Manifest.Section} {item : Section}
    (found : namedSection root entry = .ok item) : item.name = entry.name ∧ root.find? entry.nodeId = some item.node := by
  unfold namedSection at found
  split at found
  next node inside => cases found; exact ⟨rfl, inside⟩
  next => cases found

private theorem names_of_namedSections {root : Node} {entries : List Manifest.Section} {items : List Section}
    (each : List.Forall₂ (fun entry item => namedSection root entry = .ok item) entries items) :
    items.map Section.name = entries.map Manifest.Section.name := by
  induction each with
  | nil => rfl
  | cons first _ ih => rw [List.map_cons, List.map_cons, (namedSection_ok first).1, ih]

end Site

namespace Manifest
open Naming

def IsAccepted (manifest : Manifest) : Prop := manifest.flaws = []

instance (manifest : Manifest) : Decidable manifest.IsAccepted := inferInstanceAs (Decidable (_ = _))

theorem flawIf_eq_nil {wrong : Bool} {flaw : Flaw} : flawIf wrong flaw = [] ↔ wrong = false := by
  cases wrong <;> simp [flawIf]

private theorem names_of_sectionFlaws {seen : List String} {entries : List Section} (clean : sectionFlaws seen entries = []) :
    (∀ entry ∈ entries, IsPlain entry.name) ∧ (entries.map Section.name).Nodup ∧ ∀ entry ∈ entries, entry.name ∉ seen := by
  induction entries generalizing seen with
  | nil => simp
  | cons entry rest ih =>
    simp only [sectionFlaws, List.append_eq_nil_iff, flawIf_eq_nil, Bool.not_eq_false', decide_eq_false_iff_not] at clean
    obtain ⟨⟨⟨pascal, fresh⟩, -⟩, more⟩ := clean
    obtain ⟨plain, distinct, later⟩ := ih more
    refine ⟨List.forall_mem_cons.mpr ⟨isPlain_of_isPascalCase pascal, plain⟩, ?_, ?_⟩
    · rw [List.map_cons, List.nodup_cons]
      refine ⟨fun repeated => ?_, distinct⟩
      obtain ⟨other, member, same⟩ := List.mem_map.mp repeated
      exact later other member (same ▸ List.mem_cons_self)
    · refine List.forall_mem_cons.mpr ⟨fresh, fun other member known => ?_⟩
      exact later other member (List.mem_cons_of_mem _ known)

private theorem IsAccepted.sectionFlaws {manifest : Manifest} (accepted : manifest.IsAccepted) :
    Manifest.sectionFlaws [] manifest.sections = [] := by
  simp only [IsAccepted, flaws, List.append_eq_nil_iff] at accepted
  exact accepted.2

theorem IsAccepted.targets_ne_nil {manifest : Manifest} (accepted : manifest.IsAccepted) :
    manifest.output.targets ≠ [] := by
  simp only [IsAccepted, flaws, Output.flaws, List.append_eq_nil_iff, flawIf_eq_nil] at accepted
  intro empty
  simp [empty] at accepted

theorem IsAccepted.directory_ne {manifest : Manifest} (accepted : manifest.IsAccepted) :
    manifest.output.directory.text ≠ "" := by
  simp only [IsAccepted, flaws, Output.flaws, List.append_eq_nil_iff, flawIf_eq_nil] at accepted
  intro empty
  simp [empty] at accepted

theorem IsAccepted.isKebabCase_page {manifest : Manifest} (accepted : manifest.IsAccepted) :
    isKebabCase manifest.output.page = true := by
  simp only [IsAccepted, flaws, Output.flaws, List.append_eq_nil_iff, flawIf_eq_nil, Bool.not_eq_false'] at accepted
  exact accepted.1.1.1.2.2

end Manifest

namespace Site
open Naming

/-- The names of a page's sections differ from each other and can be written anywhere. -/
theorem names_of_sections {manifest : Manifest} (accepted : manifest.IsAccepted) {root : Node} {items : List Section}
    (found : sections manifest root = .ok items) :
    (items.map Section.name).Nodup ∧ ∀ item ∈ items, IsPlain item.name := by
  rcases sections_ok found with ⟨-, rfl⟩ | each
  · obtain ⟨distinct, plain, -⟩ := derivedSections_eq root
    exact ⟨distinct, plain⟩
  · have named := names_of_namedSections each
    obtain ⟨plain, distinct, -⟩ := Manifest.names_of_sectionFlaws accepted.sectionFlaws
    refine ⟨named ▸ distinct, fun item member => ?_⟩
    have listed : item.name ∈ manifest.sections.map Manifest.Section.name := named ▸ List.mem_map_of_mem member
    obtain ⟨entry, inside, same⟩ := List.mem_map.mp listed
    exact same ▸ plain entry inside

theorem find?_eq_none_iff {design : Node} {id : String} : Node.find? design id = none ↔ id ∉ design.values.map Layer.id := by
  simp only [Node.find?, List.find?_eq_none, Tree.values, List.map_map, List.mem_map, Function.comp_apply, not_exists, not_and,
    decide_eq_true_eq]

private theorem namedSection_missing {design : Node} {entry : Manifest.Section}
    (missing : entry.nodeId ∉ design.values.map Layer.id) :
    namedSection design entry = .error ⟨entry.name, entry.nodeId⟩ := by
  rw [namedSection, find?_eq_none_iff.mpr missing]

theorem namedSection_present {design : Node} {entry : Manifest.Section} (present : entry.nodeId ∈ design.values.map Layer.id) :
    ∃ item, namedSection design entry = .ok item := by
  rw [namedSection]
  cases found : Node.find? design entry.nodeId with
  | none => exact absurd present (find?_eq_none_iff.mp found)
  | some node => exact ⟨_, rfl⟩

/-- The first section whose layer is missing is the one that is told. -/
theorem sections_missing {manifest : Manifest} {design : Node} {entry : Manifest.Section}
    (missing : manifest.sections.find? (fun entry => entry.nodeId ∉ design.values.map Layer.id) = some entry) :
    sections manifest design = .error ⟨entry.name, entry.nodeId⟩ := by
  have each : ∀ entries : List Manifest.Section, entries.find? (fun entry => entry.nodeId ∉ design.values.map Layer.id) = some entry →
      entries.mapM (namedSection design) = .error ⟨entry.name, entry.nodeId⟩ := by
    intro entries
    induction entries with
    | nil => intro none; cases none
    | cons other rest ih =>
      intro missing
      rw [List.mapM_cons]
      by_cases absent : other.nodeId ∉ design.values.map Layer.id
      · rw [List.find?_cons_of_pos (by simpa using absent)] at missing
        cases missing
        rw [namedSection_missing absent]
        rfl
      · rw [List.find?_cons_of_neg (by simpa using absent)] at missing
        obtain ⟨item, present⟩ := namedSection_present (not_not.mp absent)
        rw [present, ih missing]
        rfl
  have some : manifest.sections.isEmpty = false := by
    cases listed : manifest.sections with
    | nil => simp [listed] at missing
    | cons => rfl
  rw [sections, some]
  exact each manifest.sections missing

theorem sections_found {manifest : Manifest} {design : Node}
    (complete : manifest.sections.find? (fun entry => entry.nodeId ∉ design.values.map Layer.id) = none) :
    ∃ items, sections manifest design = .ok items := by
  have each : ∀ entries : List Manifest.Section, (∀ entry ∈ entries, entry.nodeId ∈ design.values.map Layer.id) →
      ∃ items, entries.mapM (namedSection design) = .ok items := by
    intro entries present
    induction entries with
    | nil => exact ⟨[], rfl⟩
    | cons entry rest ih =>
      obtain ⟨here, later⟩ := List.forall_mem_cons.mp present
      obtain ⟨item, found⟩ := namedSection_present here
      obtain ⟨items, others⟩ := ih later
      refine ⟨item :: items, ?_⟩
      rw [List.mapM_cons, found, others]
      rfl
  rw [sections]
  split
  · exact ⟨_, rfl⟩
  · apply each
    intro entry listed
    simpa using List.find?_eq_none.mp complete entry listed

end Site

end Handoff
