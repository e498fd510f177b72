import Handoff.Proofs.DesignCodec
import Handoff.Proofs.OrderedMaps

/-! A saved design is loaded as it was. The text of a design with finite numbers is read back
to the same design, unless it nests deeper than a document may. -/

namespace Handoff
open Json

namespace Json

private theorem keeps_map (map : OrderedMap String String) : Keeps (Json.ofMap .text) (Decoder.map Decoder.text) map := by
  intro depth bound
  obtain ⟨n, rfl⟩ := Nat.exists_eq_add_of_le' (depth_record_le.mp bound).1
  have written : (Json.ofMap .text map).written = .object (map.entries.map fun entry => (some entry.1, .text entry.2)) := by
    rw [Json.ofMap, written_record, record, List.map_map, List.map_map]
    simp only [Function.comp_def, written_text]
  have pairs : (map.entries.mapM fun entry => some (entry.1, entry.2)) = some map.entries := mapM_eq_some.mpr rfl
  rw [written, Decoder.map, List.mapM_map]
  change (map.entries.mapM fun entry => some (entry.1, entry.2)).bind
    (fun pairs => some (OrderedMap.ofList pairs)) = some map
  rw [pairs, Option.bind_some, OrderedMap.ofList_entries]

private theorem limits_map (map : OrderedMap String String) : Limits (Json.ofMap .text) (Decoder.map Decoder.text) map := by
  intro depth read found
  cases depth with
  | zero =>
    rw [Json.ofMap, written_record, record] at found
    cases found
  | succ n =>
    refine depth_record_le.mpr ⟨Nat.succ_pos n, ?_⟩
    rw [List.forall_mem_map]
    exact fun _ _ => Nat.zero_le _

end Json

namespace SourceMeta

private theorem keeps (source : SourceMeta) : Keeps toJson decode source := by
  refine Keeps.record rfl (fun _ _ => rfl) (List.Sublist.refl _) (by decide) ?_
  intro depth fields
  have fileName := fields.required "fileName" (by simp) (keeps_text source.fileName)
  have lastModified := fields.required "lastModified" (by simp) (keeps_text source.lastModified)
  have rootId := fields.required "rootNodeId" (by simp) (keeps_text source.rootId)
  simp only [fileName, lastModified, rootId, Option.bind_eq_bind, Option.bind_some, Option.pure_def]

private theorem limits (source : SourceMeta) : Limits toJson decode source := by
  refine Limits.record rfl (fun _ _ => rfl) (List.Sublist.refl _) (by decide) ?_
  intro depth b distinct read
  simp [text, Json.depth]

end SourceMeta

namespace Design

/-- The numbers of a design that are not whole. -/
def numbers (design : Design) : List Binary64 := design.root.numbers

private theorem keeps {design : Design} (finite : AllFinite design.numbers) : Keeps toJson decode design := by
  refine Keeps.record rfl (fun _ _ => rfl) (List.Sublist.refl _) (by decide) ?_
  intro depth fields
  have source := fields.required "meta" (by simp) design.source.keeps
  have root := fields.required "root" (by simp) (Node.keeps finite)
  have components : (opened _ depth).defaulted "components" .empty (Decoder.map Decoder.text) = some design.components :=
    fields.defaulted "components" (by simp) (keeps_map design.components)
  simp only [source, root, components, Option.bind_eq_bind, Option.bind_some, Option.pure_def]

private theorem limits (design : Design) : Limits toJson decode design := by
  refine Limits.record rfl (fun _ _ => rfl) (List.Sublist.refl _) (by decide) ?_
  intro depth b distinct read
  simp only [Option.bind_eq_bind, Option.bind_eq_some_iff] at read
  obtain ⟨_, source, _, root, _, components, _⟩ := read
  have source := design.source.limits.required distinct (by simp) source
  have root := (Node.limits design.root).required distinct (by simp) root
  have components := (limits_map design.components).defaulted distinct (by simp) components
  simp only [List.forall_mem_cons]
  exact ⟨source, root, components, List.forall_mem_nil _⟩

theorem read_write_eq (design : Design) : read design.write = decode depthLimit design.toJson.written := by
  rw [read, decodeText, write, parse_pretty]
  rfl

theorem read_write_of_finite {design : Design} (finite : AllFinite design.numbers)
    (bound : design.toJson.depth ≤ depthLimit) :
    read design.write = some design :=
  (read_write_eq design).trans (keeps finite depthLimit bound)

/-- A design whose numbers are finite is loaded as it was saved when its text nests at most
as deep as a document may, and no design is loaded from a text that nests deeper. -/
theorem read_write (design : Design) :
    (AllFinite design.numbers → design.toJson.depth ≤ 127 → read design.write = some design) ∧
      (127 < design.toJson.depth → read design.write = none) := by
  refine ⟨fun finite bound => read_write_of_finite finite bound, ?_⟩
  intro deep
  cases found : read design.write with
  | none => rfl
  | some other =>
    rw [read_write_eq] at found
    exact absurd (design.limits depthLimit other found) (Nat.not_le.mpr deep)

/-- A layer with a gradient, a tiny negative number and a name that needs every kind of escape. -/
def sampleLayer : Layer where
  id := "1:2"
  name := "\"a\" \\ \n\u0001 é 😀"
  role := .container
  visible := true
  fills := [.linear [⟨0.5, .rgb 1 2 3⟩], .image none]
  borders := []
  shadows := [⟨.drop, .rgb 0 0 0, -5e-324, 0.1, 1e300, 4⟩]
  radii := .uniform 0
  opacity := 0.3
  clipContent := false
  layout := .free
  dimensions := .ofSizes .fill (.fixed 1024)
  textContent := some ""
  textStyle := none
  assetUrl := none
  isInteractive := false
  interaction := none

/-- A chain of layers, each inside the one before it. -/
def sampleChain : Nat → Node
  | 0 => .node sampleLayer []
  | count + 1 => .node sampleLayer [sampleChain count]

def sample (nesting : Nat) : Design where
  source := ⟨"a.fig", "2024-01-01", "1:2"⟩
  root := sampleChain nesting
  components := .ofList [("b", "B"), ("a", "A")]

/-- The deepest chain that is loaded has 60 layers below its root. -/
theorem read_write_sample :
    (AllFinite (sample 60).numbers ∧ (sample 60).toJson.depth ≤ 127 ∧ read (sample 60).write = some (sample 60)) ∧
      127 < (sample 61).toJson.depth ∧ read (sample 61).write = none := by
  have finite : AllFinite (sample 60).numbers := by unfold AllFinite; decide +kernel
  have bound : (sample 60).toJson.depth ≤ 127 := by decide +kernel
  have deep : 127 < (sample 61).toJson.depth := by decide +kernel
  exact ⟨⟨finite, bound, (read_write (sample 60)).1 finite bound⟩, deep, (read_write (sample 61)).2 deep⟩

end Design

end Handoff
