import Handoff.Proofs.LayoutCodec
import Handoff.Proofs.Trees

/-! Layers and whole designs are saved without loss. A layer inside another stands two levels
deeper in the text, so the depth of a document bounds the depth of the tree. -/

namespace Handoff
open Json

theorem Json.mem_listMember {α : Type} {name : String} {encode : α → Json} {values : List α} {member : String × Json} :
    member ∈ listMember name encode values ↔ values ≠ [] ∧ member = (name, .array (values.map encode)) := by
  cases values <;> simp [listMember]

theorem Json.forall_mem_listMember {α : Type} {name : String} {encode : α → Json} {values : List α}
    {p : String × Json → Prop} :
    (∀ member ∈ listMember name encode values, p member) ↔ (values ≠ [] → p (name, .array (values.map encode))) := by
  cases values <;> simp [listMember]

private theorem Json.sublist_listMember {α : Type} (name : String) (encode : α → Json) (values : List α) :
    ((listMember name encode values).map Prod.fst).Sublist [name] := by
  cases values <;> simp [listMember]

namespace Layer

def numbers (layer : Layer) : List Binary64 :=
  layer.fills.flatMap Fill.numbers ++ layer.borders.flatMap Border.numbers ++ layer.shadows.flatMap Shadow.numbers
    ++ layer.radii.numbers ++ [layer.opacity] ++ layer.layout.numbers ++ layer.dimensions.numbers
    ++ layer.textStyle.toList.flatMap TextStyle.numbers

/-- The members of a layer with layers inside it. -/
def membersWith (layer : Layer) (children : List Node) : List (String × Json) :=
  layer.members ++ listMember "children" Node.toJson children

theorem known (layer : Layer) (children : List Node) : ((layer.membersWith children).map Prod.fst).Sublist fieldNames := by
  simp only [membersWith, members, List.map_append]
  exact (((((((((((List.Sublist.refl _).append (sublist_listMember ..)).append (sublist_listMember ..)).append
    (sublist_listMember ..)).append (List.Sublist.refl _)).append (sublist_optionalMember ..)).append
    (sublist_optionalMember ..)).append (sublist_optionalMember ..)).append (List.Sublist.refl _)).append
    (sublist_optionalMember ..))).append (sublist_listMember ..)

/-- A layer is read from its own members, whatever is inside it. -/
theorem ofRecord_opened {layer : Layer} {children : List Node} {depth : Nat} (finite : AllFinite layer.numbers)
    (fields : Fields (layer.membersWith children) depth) :
    ofRecord (opened (layer.membersWith children) depth) = some layer := by
  simp only [AllFinite, numbers, List.forall_mem_append, List.forall_mem_singleton, List.forall_mem_flatMap,
    Option.mem_toList] at finite
  obtain ⟨⟨⟨⟨⟨⟨⟨fills, borders⟩, shadows⟩, radii⟩, opacity⟩, layout⟩, dimensions⟩, textStyle⟩ := finite
  have id := fields.required "id" (by simp [membersWith, members]) (keeps_text layer.id)
  have name := fields.required "name" (by simp [membersWith, members]) (keeps_text layer.name)
  have role := fields.required "componentType" (by simp [membersWith, members]) (keeps_named layer.role)
  have visible := fields.required "visible" (by simp [membersWith, members]) (keeps_bool layer.visible)
  have fills := fields.listed "fills" (by simp [membersWith, members, mem_optionalMember, mem_listMember])
    (Keeps.list fun fill member => Fill.keeps (fills fill member))
  have borders := fields.listed "borders" (by simp [membersWith, members, mem_optionalMember, mem_listMember])
    (Keeps.list fun border member => Border.keeps (borders border member))
  have shadows := fields.listed "shadows" (by simp [membersWith, members, mem_optionalMember, mem_listMember])
    (Keeps.list fun shadow member => Shadow.keeps (shadows shadow member))
  have radii : (opened _ depth).defaulted "radii" (.uniform 0) CornerRadii.decode = some layer.radii :=
    fields.defaulted "radii" (by simp [membersWith, members]) (CornerRadii.keeps radii)
  have opacity := fields.required "opacity" (by simp [membersWith, members]) (keeps_real opacity)
  have clipContent : (opened _ depth).defaulted "clipContent" false Decoder.bool = some layer.clipContent :=
    fields.defaulted "clipContent" (by simp [membersWith, members]) (keeps_bool layer.clipContent)
  have layout : (opened _ depth).defaulted "layout" .free Layout.decode = some layer.layout :=
    fields.defaulted "layout" (by simp [membersWith, members]) (Layout.keeps layout)
  have dimensions : (opened _ depth).defaulted "dimensions" .zero Dimensions.decode = some layer.dimensions :=
    fields.defaulted "dimensions" (by simp [membersWith, members]) (Dimensions.keeps dimensions)
  have textContent : (opened _ depth).optional "textContent" Decoder.text = some layer.textContent :=
    fields.optional "textContent" (by simp [membersWith, members, mem_optionalMember, mem_listMember])
      (fun _ _ => keeps_text _)
      fun _ _ => text_ne_null _
  have textStyle : (opened _ depth).optional "textStyle" TextStyle.decode = some layer.textStyle :=
    fields.optional "textStyle" (by simp [membersWith, members, mem_optionalMember, mem_listMember])
      (fun style member => TextStyle.keeps (textStyle style member)) fun _ _ => record_ne_null _
  have assetUrl : (opened _ depth).optional "assetUrl" Decoder.text = some layer.assetUrl :=
    fields.optional "assetUrl" (by simp [membersWith, members, mem_optionalMember, mem_listMember])
      (fun _ _ => keeps_text _)
      fun _ _ => text_ne_null _
  have isInteractive : (opened _ depth).defaulted "isInteractive" false Decoder.bool = some layer.isInteractive :=
    fields.defaulted "isInteractive" (by simp [membersWith, members]) (keeps_bool layer.isInteractive)
  have interaction : (opened _ depth).optional "interactivityHint" Named.decode = some layer.interaction :=
    fields.optional "interactivityHint" (by simp [membersWith, members, mem_optionalMember, mem_listMember])
      (fun _ _ => keeps_named _) fun _ _ => text_ne_null _
  simp only [ofRecord, id, name, role, visible, fills, borders, shadows, radii, opacity, clipContent, layout,
    dimensions, textContent,
    textStyle, assetUrl, isInteractive, interaction, Option.bind_eq_bind, Option.bind_some, Option.pure_def]

/-- Seven members of a layer nest, the others are flat. -/
theorem depth_members_le {layer : Layer} {depth : Nat}
    (fills : layer.fills ≠ [] → (Json.array (layer.fills.map Fill.toJson)).depth ≤ depth)
    (borders : layer.borders ≠ [] → (Json.array (layer.borders.map Border.toJson)).depth ≤ depth)
    (shadows : layer.shadows ≠ [] → (Json.array (layer.shadows.map Shadow.toJson)).depth ≤ depth)
    (radii : layer.radii.toJson.depth ≤ depth) (layout : layer.layout.toJson.depth ≤ depth)
    (dimensions : layer.dimensions.toJson.depth ≤ depth)
    (textStyle : ∀ style ∈ layer.textStyle, (TextStyle.toJson style).depth ≤ depth) :
    ∀ member ∈ layer.members, member.2.depth ≤ depth := by
  have scalar : ∀ json : Json, json.depth = 0 → json.depth ≤ depth := fun _ flat => flat ▸ Nat.zero_le _
  simp only [members, List.forall_mem_append, List.forall_mem_cons, forall_mem_listMember, forall_mem_optionalMember]
  refine ⟨⟨⟨⟨⟨⟨⟨⟨⟨?_, fills⟩, borders⟩, shadows⟩, radii, ?_, ?_, layout, dimensions, List.forall_mem_nil _⟩, ?_⟩,
    textStyle⟩, ?_⟩, ?_⟩, ?_⟩
  · exact ⟨scalar _ rfl, scalar _ rfl, scalar _ rfl, scalar _ rfl, List.forall_mem_nil _⟩
  · exact scalar _ rfl
  · exact scalar _ rfl
  · exact fun _ _ => scalar _ rfl
  · exact fun _ _ => scalar _ rfl
  · exact ⟨scalar _ rfl, List.forall_mem_nil _⟩
  · exact fun _ _ => scalar _ rfl

/-- A layer that is read nests no deeper than the document. -/
theorem limits_ofRecord {layer read : Layer} {children : List Node} {depth : Nat}
    (distinct : ((layer.membersWith children).map Prod.fst).Nodup)
    (found : ofRecord (opened (layer.membersWith children) depth) = some read) :
    ∀ member ∈ layer.members, member.2.depth ≤ depth := by
  rw [ofRecord] at found
  iterate 4 obtain ⟨_, -, found⟩ := Option.bind_eq_some_iff.mp found
  obtain ⟨_, fills, found⟩ := Option.bind_eq_some_iff.mp found
  obtain ⟨_, borders, found⟩ := Option.bind_eq_some_iff.mp found
  obtain ⟨_, shadows, found⟩ := Option.bind_eq_some_iff.mp found
  obtain ⟨_, radii, found⟩ := Option.bind_eq_some_iff.mp found
  iterate 2 obtain ⟨_, -, found⟩ := Option.bind_eq_some_iff.mp found
  obtain ⟨_, layout, found⟩ := Option.bind_eq_some_iff.mp found
  obtain ⟨_, dimensions, found⟩ := Option.bind_eq_some_iff.mp found
  obtain ⟨_, -, found⟩ := Option.bind_eq_some_iff.mp found
  obtain ⟨_, textStyle, -⟩ := Option.bind_eq_some_iff.mp found
  have inside : ∀ {member}, member ∈ layer.members → member ∈ layer.membersWith children :=
    fun member => List.mem_append_left _ member
  have fills : layer.fills ≠ [] → (Json.array (layer.fills.map Fill.toJson)).depth ≤ depth := fun some =>
    (Limits.list fun fill _ => fill.limits).defaulted distinct (inside (by simp [members, mem_listMember, some])) fills
  have borders : layer.borders ≠ [] → (Json.array (layer.borders.map Border.toJson)).depth ≤ depth := fun some =>
    (Limits.list fun border _ => border.limits).defaulted distinct
      (inside (by simp [members, mem_listMember, some])) borders
  have shadows : layer.shadows ≠ [] → (Json.array (layer.shadows.map Shadow.toJson)).depth ≤ depth := fun some =>
    (Limits.list fun shadow _ => shadow.limits).defaulted distinct
      (inside (by simp [members, mem_listMember, some])) shadows
  have radii := layer.radii.limits.defaulted distinct (inside (by simp [members])) radii
  have layout := layer.layout.limits.defaulted distinct (inside (by simp [members])) layout
  have dimensions := layer.dimensions.limits.defaulted distinct (inside (by simp [members])) dimensions
  have textStyle : ∀ style ∈ layer.textStyle, (TextStyle.toJson style).depth ≤ depth := fun style given =>
    style.limits.optional distinct (inside (by simp [members, mem_optionalMember, Option.mem_def.mp given])) textStyle
  exact depth_members_le fills borders shadows radii layout dimensions textStyle

end Layer

namespace Node

def numbers (node : Node) : List Binary64 := node.values.flatMap Layer.numbers

theorem allFinite_node {layer : Layer} {children : List Node} :
    AllFinite (numbers (.node layer children)) ↔ AllFinite layer.numbers ∧
      ∀ child ∈ children, AllFinite (numbers child) := by
  simp only [AllFinite, numbers, Tree.values_node, List.flatMap_cons, List.forall_mem_append, List.forall_mem_flatMap]

private theorem allToJson_eq_map (children : List Node) : allToJson children = children.map toJson := by
  induction children with
  | nil => rfl
  | cons child rest ih => rw [allToJson, ih, List.map_cons]

theorem toJson_node (layer : Layer) (children : List Node) :
    toJson (.node layer children) = .record (layer.membersWith children) := by
  cases children with
  | nil => rw [toJson, Layer.membersWith]; simp [listMember]
  | cons child rest => rw [toJson, Layer.membersWith, allToJson_eq_map]; rfl

/-- Nesting as deep as the text is enough for reading the layers. -/
theorem keeps_decodeNested {node : Node} (finite : AllFinite (numbers node)) (nesting : Nat)
    (enough : (toJson node).depth ≤ nesting) :
    Keeps toJson (decodeNested nesting) node := by
  induction node using Tree.childInduction generalizing nesting with
  | node layer children ih =>
    obtain ⟨ofLayer, ofChildren⟩ := allFinite_node.mp finite
    rw [toJson_node, depth_record_le] at enough
    obtain ⟨n, rfl⟩ := Nat.exists_eq_add_of_le' enough.1
    refine Keeps.record (toJson_node layer children) (fun _ _ => rfl) (layer.known children) (by decide) ?_
    intro depth fields
    have read := Layer.ofRecord_opened ofLayer fields
    have inner : ∀ child ∈ children, (toJson child).depth ≤ n := by
      intro child member
      have listed : ("children", Json.array (children.map toJson)) ∈ layer.membersWith children :=
        List.mem_append_right _ (mem_listMember.mpr ⟨List.ne_nil_of_mem member, rfl⟩)
      have bound := depth_array_le.mp (enough.2 _ listed)
      exact Nat.le_trans (bound.2 _ (List.mem_map_of_mem member)) (Nat.sub_le _ _)
    have children := fields.listed "children" 
      (by simp [Layer.membersWith, Layer.members, mem_optionalMember, mem_listMember])
      (Keeps.list fun child member => ih child member (ofChildren child member) n (inner child member))
    simp only [read, children, Option.bind_eq_bind, Option.bind_some, Option.pure_def]

private theorem limits_decodeNested (node : Node) (nesting : Nat) : Limits toJson (decodeNested nesting) node := by
  induction node using Tree.childInduction generalizing nesting with
  | node layer children ih =>
    cases nesting with
    | zero => exact fun _ _ read => nomatch read
    | succ n =>
      refine Limits.record (toJson_node layer children) (fun _ _ => rfl) (layer.known children) (by decide) ?_
      intro depth b distinct read
      simp only [Option.bind_eq_bind, Option.bind_eq_some_iff] at read
      obtain ⟨_, ofLayer, _, ofChildren, _⟩ := read
      have listed : children ≠ [] → (Json.array (children.map toJson)).depth ≤ depth := fun some =>
        (Limits.list fun child member => ih child member n).defaulted distinct
          (List.mem_append_right _ (mem_listMember.mpr ⟨some, rfl⟩)) ofChildren
      rw [Layer.membersWith, List.forall_mem_append, forall_mem_listMember]
      exact ⟨Layer.limits_ofRecord distinct ofLayer, listed⟩

theorem keeps {node : Node} (finite : AllFinite (numbers node)) : Keeps toJson decode node :=
  fun depth bound => keeps_decodeNested finite depth bound depth bound

theorem limits (node : Node) : Limits toJson decode node := fun depth => limits_decodeNested node depth depth

end Node

end Handoff
