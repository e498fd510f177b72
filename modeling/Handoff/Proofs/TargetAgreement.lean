import Handoff.Component.Targets
import Handoff.Proofs.LoweredMarkup

/-! The targets show the same design. What a reader of a page sees of an element is its
classes, its picture and its hint; tags, directives and fixed properties are a library's
own affair. Each target's markup has the outline of the layer, which names no library. -/

namespace Handoff.Component
open Classes

def valuesOf (name : String) (attributes : List Attribute) : List String :=
  attributes.filterMap fun
    | .flag _ => none
    | .value other value => if other = name then some value else none

/-- What every target says about an element. -/
structure Marks where
  classes : List String
  src : List String
  alt : List String
  placeholder : List String
  deriving DecidableEq

def Marks.none : Marks := ⟨[], [], [], []⟩

def Marks.append (first second : Marks) : Marks :=
  ⟨first.classes ++ second.classes, first.src ++ second.src, first.alt ++ second.alt,
    first.placeholder ++ second.placeholder⟩

def Marks.styling (classes : String) : Marks := { Marks.none with classes := if classes.isEmpty then [] else [classes] }

def Marks.ofAttributes (classAttribute : String) (attributes : List Attribute) : Marks :=
  ⟨valuesOf classAttribute attributes, valuesOf "src" attributes, valuesOf "alt" attributes,
    valuesOf "placeholder" attributes⟩

/-- Markup without the names that a target chooses. -/
inductive Outline where
  | text (text : String)
  | element (marks : Marks) (children : List Outline)

mutual

/-- The outline of markup whose classes are in an attribute. -/
def outline (classAttribute : String) : Markup → Outline
  | .text s => .text s
  | .element _ attributes children => .element (.ofAttributes classAttribute attributes)
    (outlineAll classAttribute children)

def outlineAll (classAttribute : String) : List Markup → List Outline
  | [] => []
  | child :: rest => outline classAttribute child :: outlineAll classAttribute rest

end

theorem outlineAll_eq_map (classAttribute : String) (children : List Markup) :
    outlineAll classAttribute children = children.map (outline classAttribute) := by
  induction children with
  | nil => rfl
  | cons child rest ih => rw [outlineAll, ih, List.map_cons]

/-- Whether the elements of a role hold the layers inside them. -/
def takesContent : Role → Bool
  | .input | .textarea | .checkbox | .switch | .divider => false
  | _ => true

/-- The outlines of a card's children, sorted into its slots. -/
def cardOutline (card : Node) (children : List Outline) : List Outline :=
  let plan := CardPlan.ofChildren card.children
  let title := ((plan.distribute card.children).header.bind fun header => Node.firstText? header).getD card.value.name
  let slots := plan.distribute children
  let part := Outline.element .none
  slots.header.toList.map (fun _ => part [part [.text title]])
    ++ (if slots.content.isEmpty then [] else [part slots.content])
    ++ slots.footer.toList.map fun footer => part [footer]

/-- The outline of a layer, given its classes and the outlines of its children. -/
def layerOutline (classes : String) (node : Node) (children : List Outline) : Outline :=
  let styled := Outline.element (.styling classes)
  match node.value.role with
  | .text => styled (node.value.text?.toList.map .text)
  | .divider => styled []
  | .image => .element { Marks.styling classes with src := [node.value.assetUrl.getD ""], alt := [node.value.name] } []
  | .card => styled (cardOutline node children)
  | .button => styled [.text (node.firstText?.getD defaultButtonLabel)]
  | role =>
    if takesContent role then styled children
    else .element { Marks.styling classes with placeholder := node.firstText?.toList } []

mutual

/-- The outline of a layer and of everything inside it. -/
def nodeOutline (tokens : Option TokenMap) : Node → Outline
  | .node layer children =>
    layerOutline (nodeClasses (.node layer children) tokens).text (.node layer children) (allNodeOutline tokens children)

def allNodeOutline (tokens : Option TokenMap) : List Node → List Outline
  | [] => []
  | child :: rest => nodeOutline tokens child :: allNodeOutline tokens rest

end

private theorem allNodeOutline_eq_map (tokens : Option TokenMap) (children : List Node) :
    allNodeOutline tokens children = children.map (nodeOutline tokens) := by
  induction children with
  | nil => rfl
  | cons child rest ih => rw [allNodeOutline, ih, List.map_cons]

/-- What two libraries must share for their markup to show the same: which roles hold
content, and that buttons and cards have elements at all. -/
structure Library.Conforms (library : Library) (classAttribute : String) : Prop where
  quiet : ∀ entry ∈ library.wrappers, Marks.ofAttributes classAttribute entry.2.properties = .none
  slot : ∀ entry ∈ library.wrappers, entry.2.hasSlot = takesContent entry.1
  missing : ∀ role, library.wrapper? role = none → role ≠ .button ∧ role ≠ .card ∧
    (role ≠ .divider → takesContent role = true)
  parts : library.cardParts.isSome
  separate : classAttribute ∉ ["src", "alt", "placeholder"]

theorem Marks.ofAttributes_append (classAttribute : String) (first second : List Attribute) :
    ofAttributes classAttribute (first ++ second) =
      (ofAttributes classAttribute first).append (ofAttributes classAttribute second) := by
  simp [ofAttributes, append, valuesOf]

theorem Marks.ofAttributes_flags (classAttribute : String) (names : List String) :
    ofAttributes classAttribute (names.map .flag) = .none := by
  simp [ofAttributes, valuesOf, List.filterMap_map, none]

/-- A role whose outline is decided by whether it takes content. -/
structure IsPlain (role : Role) : Prop where
  text : role ≠ .text
  divider : role ≠ .divider
  image : role ≠ .image
  card : role ≠ .card
  button : role ≠ .button

theorem layerOutline_of_isPlain {classes : String} {node : Node} {children : List Outline}
    (plain : IsPlain node.value.role) :
    layerOutline classes node children =
      if takesContent node.value.role then .element (.styling classes) children
      else .element { Marks.styling classes with placeholder := node.firstText?.toList } [] := by
  unfold layerOutline
  split
  next role => exact absurd role plain.text
  next role => exact absurd role plain.divider
  next role => exact absurd role plain.image
  next role => exact absurd role plain.card
  next role => exact absurd role plain.button
  next => rfl

namespace Library.Conforms

variable {library : Library} {classAttribute : String} (conforms : library.Conforms classAttribute)
include conforms

theorem marks_styling (classes : String) :
    Marks.ofAttributes classAttribute (Markup.classAttribute classAttribute classes) = .styling classes := by
  have separate := conforms.separate
  simp only [List.mem_cons, List.not_mem_nil, or_false, not_or] at separate
  unfold Markup.classAttribute
  by_cases empty : classes.isEmpty <;> simp [Marks.ofAttributes, Marks.styling, Marks.none, valuesOf, empty, separate]

theorem marks_attributes {role : Role} {wrapper : Wrapper} (found : library.wrapper? role = some wrapper)
    (classes : String) :
    Marks.ofAttributes classAttribute (wrapper.attributes classAttribute classes) = .styling classes := by
  have quiet := conforms.quiet _ (library.mem_of_wrapper? found)
  rw [Wrapper.attributes, Marks.ofAttributes_append, Marks.ofAttributes_append, Marks.ofAttributes_flags,
    conforms.marks_styling, quiet]
  simp [Marks.append, Marks.styling, Marks.none]

private theorem marks_picture (layer : Layer) :
    Marks.ofAttributes classAttribute (pictureAttributes layer) =
      { Marks.none with src := [layer.assetUrl.getD ""], alt := [layer.name] } := by
  have separate := conforms.separate
  simp only [List.mem_cons, List.not_mem_nil, or_false, not_or] at separate
  simp [Marks.ofAttributes, pictureAttributes, valuesOf, Marks.none, Ne.symm separate.1, Ne.symm separate.2.1]

private theorem marks_hint (text : Option String) :
    Marks.ofAttributes classAttribute (text.toList.map (.value "placeholder")) =
      { Marks.none with placeholder := text.toList } := by
  have separate := conforms.separate
  simp only [List.mem_cons, List.not_mem_nil, or_false, not_or] at separate
  cases text <;> simp [Marks.ofAttributes, valuesOf, Marks.none, Ne.symm separate.2.2]

theorem outline_wrapper {role : Role} {wrapper : Wrapper} (found : library.wrapper? role = some wrapper) (classes : String)
    (children : List Markup) :
    outline classAttribute (wrapper.element classAttribute classes children) =
      .element (.styling classes) (children.map (outline classAttribute)) := by
  rw [Wrapper.element, outline, conforms.marks_attributes found, outlineAll_eq_map]

omit conforms in
private theorem outline_part (part : Part) (children : List Markup) :
    outline classAttribute (part.element children) = .element .none (children.map (outline classAttribute)) := by
  rw [Part.element, outline, Marks.ofAttributes_flags, outlineAll_eq_map]

omit conforms in
private theorem outline_cardChildren (parts : CardParts) (card : Node) (children : List Markup) :
    (cardChildren parts card children).map (outline classAttribute) =
      cardOutline card (children.map (outline classAttribute)) := by
  obtain ⟨header, content, footer⟩ := (CardPlan.ofChildren card.children).distribute_map children (outline classAttribute)
  unfold cardChildren cardOutline
  dsimp only
  rw [header, content, footer]
  simp only [List.map_append, Option.toList_map, List.map_map, Function.comp_def, outline_part, List.map_cons,
    List.map_nil, outline,
    List.isEmpty_map]
  congr 2
  split <;> simp [outline_part]

private theorem outline_wrapped {wrapper : Wrapper} {node : Node} (found : library.wrapper? node.value.role = some wrapper)
    (text : node.value.role ≠ .text) (divider : node.value.role ≠ .divider) (image : node.value.role ≠ .image)
    (classes : String) (children : List Markup) :
    outline classAttribute (wrapped library wrapper classAttribute classes node children) =
      layerOutline classes node (children.map (outline classAttribute)) := by
  have slot : wrapper.hasSlot = takesContent node.value.role := conforms.slot _ (library.mem_of_wrapper? found)
  unfold wrapped
  split
  next parts role _ =>
    rw [conforms.outline_wrapper found, outline_cardChildren, layerOutline, role]
  next role =>
    rw [conforms.outline_wrapper found, layerOutline, role]
    rfl
  next button card =>
    have noCard : node.value.role ≠ .card := by
      intro role
      obtain ⟨parts, given⟩ := Option.isSome_iff_exists.mp conforms.parts
      exact card parts role given
    rw [layerOutline_of_isPlain ⟨text, divider, image, noCard, button⟩, ← slot]
    split
    · rw [conforms.outline_wrapper found]
    · rw [outline, Marks.ofAttributes_append, conforms.marks_attributes found, conforms.marks_hint]
      simp [outlineAll, Marks.append, Marks.styling, Marks.none]

private theorem outline_elementOf (classes : String) (node : Node) (children : List Markup) :
    outline classAttribute (elementOf library classAttribute classes node children) =
      layerOutline classes node (children.map (outline classAttribute)) := by
  have styling := conforms.marks_styling classes
  unfold elementOf
  dsimp only
  split
  next role =>
    rw [layerOutline, role, outline, styling, outlineAll_eq_map, textChildren]
    simp [outline]
  next wrapper role found =>
    rw [layerOutline, role, conforms.outline_wrapper found]
    rfl
  next role found =>
    rw [layerOutline, role, outline, styling]
    rfl
  next role =>
    rw [layerOutline, role, outline, Marks.ofAttributes_append, styling, conforms.marks_picture]
    simp [outlineAll, Marks.append, Marks.styling, Marks.none]
  next wrapper found text divider image =>
    exact conforms.outline_wrapped found text divider image classes children
  next found text divider image =>
    obtain ⟨button, card, content⟩ := conforms.missing _ found
    rw [layerOutline_of_isPlain ⟨text, divider, image, card, button⟩, content divider, outline, styling,
      outlineAll_eq_map]
    rfl

private theorem outline_markupOf (tokens : Option TokenMap) (node : Node) :
    outline classAttribute (markupOf library classAttribute tokens node) = nodeOutline tokens node := by
  induction node using Tree.childInduction with
  | node layer children ih =>
    rw [markupOf, conforms.outline_elementOf, allMarkupOf_eq_map, nodeOutline, allNodeOutline_eq_map, List.map_map]
    congr 1
    exact List.map_congr_left ih

end Library.Conforms

private theorem conforms_library (target : Target) : target.renderer.library.Conforms target.renderer.style.classAttribute := by
  cases target with
  | react => exact ⟨by decide, by decide, by intro role; cases role <;> decide, by decide, by decide⟩
  | vue => exact ⟨by decide, by decide, by intro role; cases role <;> decide, by decide, by decide⟩
  | angular => exact ⟨by decide, by decide, by intro role; cases role <;> decide, by decide, by decide⟩

def renameAttribute (old new : String) : Attribute → Attribute
  | .flag name => .flag (if name = old then new else name)
  | .value name value => .value (if name = old then new else name) value

mutual

/-- Markup in which an attribute has another name. -/
def rename (old new : String) : Markup → Markup
  | .text s => .text s
  | .element tag attributes children => .element tag (attributes.map (renameAttribute old new))
    (renameAll old new children)

def renameAll (old new : String) : List Markup → List Markup
  | [] => []
  | child :: rest => rename old new child :: renameAll old new rest

end

theorem renameAll_eq_map (old new : String) (children : List Markup) :
    renameAll old new children = children.map (rename old new) := by
  induction children with
  | nil => rfl
  | cons child rest ih => rw [renameAll, ih, List.map_cons]

/-- A library none of whose own attributes has a name. -/
structure Library.Lacks (library : Library) (name : String) : Prop where
  directives : ∀ entry ∈ library.wrappers, name ∉ entry.2.directives
  properties : ∀ entry ∈ library.wrappers, ∀ property ∈ entry.2.properties, property.name ≠ name
  parts : ∀ parts, library.cardParts = some parts → ∀ part ∈ [parts.header, parts.title, parts.content, parts.footer],
    name ∉ part.directives
  fixed : name ∉ ["src", "alt", "placeholder"]

private theorem renameAttribute_of_ne {old new : String} {written : Attribute} (other : written.name ≠ old) :
    renameAttribute old new written = written := by
  cases written <;> simp_all [renameAttribute, Attribute.name]

theorem map_renameAttribute_of_ne {old new : String} {attributes : List Attribute}
    (other : ∀ written ∈ attributes, written.name ≠ old) : attributes.map (renameAttribute old new) = attributes :=
  (List.map_congr_left fun written member => renameAttribute_of_ne (other written member)).trans (List.map_id _)

theorem map_renameAttribute_classAttribute (old new classes : String) :
    (Markup.classAttribute old classes).map (renameAttribute old new) = Markup.classAttribute new classes := by
  unfold Markup.classAttribute
  split <;> simp [renameAttribute]

namespace Library.Lacks

variable {library : Library} {old : String} (lacks : library.Lacks old) (new : String)
include lacks

theorem rename_attributes {role : Role} {wrapper : Wrapper} (found : library.wrapper? role = some wrapper)
    (classes : String) :
    (wrapper.attributes old classes).map (renameAttribute old new) = wrapper.attributes new classes := by
  have listed := library.mem_of_wrapper? found
  have flags : ∀ written ∈ wrapper.directives.map Attribute.flag, written.name ≠ old := by
    intro written member
    obtain ⟨directive, inside, rfl⟩ := List.mem_map.mp member
    exact fun same => lacks.directives _ listed (same ▸ inside)
  rw [Wrapper.attributes, List.map_append, List.map_append, map_renameAttribute_of_ne flags,
    map_renameAttribute_classAttribute, map_renameAttribute_of_ne (lacks.properties _ listed)]
  rfl

theorem rename_wrapper {role : Role} {wrapper : Wrapper} (found : library.wrapper? role = some wrapper) (classes : String)
    (children : List Markup) :
    rename old new (wrapper.element old classes children) =
      wrapper.element new classes (children.map (rename old new)) := by
  rw [Wrapper.element, rename, lacks.rename_attributes new found, renameAll_eq_map]
  rfl

omit lacks in
private theorem rename_part {part : Part} (other : old ∉ part.directives) (children : List Markup) :
    rename old new (part.element children) = part.element (children.map (rename old new)) := by
  have flags : ∀ written ∈ part.directives.map Attribute.flag, written.name ≠ old := by
    intro written member
    obtain ⟨directive, inside, rfl⟩ := List.mem_map.mp member
    exact fun same => other (same ▸ inside)
  rw [Part.element, rename, map_renameAttribute_of_ne flags, renameAll_eq_map]
  rfl

private theorem rename_cardChildren {parts : CardParts} (given : library.cardParts = some parts) (card : Node)
    (children : List Markup) : (cardChildren parts card children).map (rename old new) =
      cardChildren parts card (children.map (rename old new)) := by
  have other := lacks.parts parts given
  simp only [List.forall_mem_cons, List.not_mem_nil, false_implies, implies_true, and_true] at other
  obtain ⟨header, title, content, footer⟩ := other
  obtain ⟨headers, contents, footers⟩ := (CardPlan.ofChildren card.children).distribute_map children (rename old new)
  unfold cardChildren
  dsimp only
  rw [headers, contents, footers]
  simp only [List.map_append, Option.toList_map, List.map_map, Function.comp_def, rename_part new header,
    rename_part new title,
    rename_part new footer, List.map_cons, List.map_nil, rename, List.isEmpty_map]
  congr 2
  split <;> simp [rename_part new content]

private theorem rename_wrapped {wrapper : Wrapper} {node : Node} (found : library.wrapper? node.value.role = some wrapper)
    (classes : String) (children : List Markup) : rename old new (wrapped library wrapper old classes node children) =
      wrapped library wrapper new classes node (children.map (rename old new)) := by
  have fixed := lacks.fixed
  simp only [List.mem_cons, List.not_mem_nil, or_false, not_or] at fixed
  unfold wrapped
  split
  next given => rw [lacks.rename_wrapper new found, lacks.rename_cardChildren new given]
  next => rw [lacks.rename_wrapper new found]; rfl
  next =>
    split
    · rw [lacks.rename_wrapper new found]
    · have hint : ∀ written ∈ node.firstText?.toList.map (Attribute.value "placeholder"), written.name ≠ old := by
        intro written member
        obtain ⟨text, -, rfl⟩ := List.mem_map.mp member
        exact Ne.symm fixed.2.2
      rw [rename, List.map_append, lacks.rename_attributes new found, map_renameAttribute_of_ne hint]
      rfl

private theorem rename_elementOf (classes : String) (node : Node) (children : List Markup) :
    rename old new (elementOf library old classes node children) =
      elementOf library new classes node (children.map (rename old new)) := by
  have fixed := lacks.fixed
  simp only [List.mem_cons, List.not_mem_nil, or_false, not_or] at fixed
  have styling := map_renameAttribute_classAttribute old new classes
  unfold elementOf
  dsimp only
  split
  next => rw [rename, styling, renameAll_eq_map, textChildren]; cases node.value.text? <;> rfl
  next found => rw [lacks.rename_wrapper new found]; rfl
  next => rw [rename, styling]; rfl
  next =>
    have picture : ∀ written ∈ pictureAttributes node.value, written.name ≠ old := by
      intro written member
      simp only [pictureAttributes, List.mem_cons, List.not_mem_nil, or_false] at member
      rcases member with rfl | rfl
      · exact Ne.symm fixed.1
      · exact Ne.symm fixed.2.1
    rw [rename, List.map_append, styling, map_renameAttribute_of_ne picture]
    rfl
  next found _ _ _ => exact lacks.rename_wrapped new found classes children
  next => rw [rename, styling, renameAll_eq_map]

private theorem rename_markupOf (tokens : Option TokenMap) (node : Node) :
    rename old new (markupOf library old tokens node) = markupOf library new tokens node := by
  induction node using Tree.childInduction with
  | node layer children ih =>
    rw [markupOf, markupOf, lacks.rename_elementOf, allMarkupOf_eq_map, allMarkupOf_eq_map, List.map_map]
    congr 1
    exact List.map_congr_left ih

end Library.Lacks

/-- A wrapper apart from what a file imports for it. -/
def Wrapper.withoutSymbols (wrapper : Wrapper) : Wrapper := { wrapper with symbols := [] }

def Library.withoutSymbols (library : Library) : Library :=
  { library with wrappers := library.wrappers.map fun entry => (entry.1, entry.2.withoutSymbols) }

private theorem Library.wrapper?_withoutSymbols (library : Library) (role : Role) :
    library.withoutSymbols.wrapper? role = (library.wrapper? role).map Wrapper.withoutSymbols := by
  simp only [Library.wrapper?, Library.withoutSymbols, List.find?_map, Option.map_map]
  rfl

private theorem elementOf_withoutSymbols (library : Library) (classAttribute classes : String) (node : Node)
    (children : List Markup) : elementOf library.withoutSymbols classAttribute classes node children =
      elementOf library classAttribute classes node children := by
  unfold elementOf
  dsimp only
  rw [Library.wrapper?_withoutSymbols]
  cases library.wrapper? node.value.role with
  | none => rfl
  | some wrapper => cases node.value.role <;> rfl

/-- What a file imports does not show in its markup. -/
theorem markupOf_withoutSymbols (library : Library) (classAttribute : String) (tokens : Option TokenMap) (node : Node) :
    markupOf library.withoutSymbols classAttribute tokens node = markupOf library classAttribute tokens node := by
  induction node using Tree.childInduction with
  | node layer children ih =>
    rw [markupOf, markupOf, elementOf_withoutSymbols, allMarkupOf_eq_map, allMarkupOf_eq_map, List.map_congr_left ih]

private theorem lacks_className : React.library.Lacks "className" := by
  refine ⟨by decide, by decide, ?_, by decide⟩
  intro parts given
  obtain rfl : Registry.cardParts = parts := Option.some.inj given
  decide

/-- Registries whose dialogs are made of different parts lower alike. -/
theorem markupOf_registry (first second : List String) (classAttribute : String)
    (tokens : Option TokenMap) (node : Node) :
    markupOf (Registry.library first) classAttribute tokens node =
      markupOf (Registry.library second) classAttribute tokens node := by
  have same : (Registry.library first).withoutSymbols = (Registry.library second).withoutSymbols := rfl
  rw [← markupOf_withoutSymbols, same, markupOf_withoutSymbols]

/-- Every target shows a design by the same outline: the same elements in the same places,
with the same classes, texts, pictures and hints. Vue's markup is React's with another name
for the attribute of classes. -/
theorem targets_agree (tokens : Option TokenMap) (node : Node) :
    (∀ first second : Target,
      outline first.renderer.style.classAttribute (first.renderer.markup tokens node.withoutDecoration) =
        outline second.renderer.style.classAttribute (second.renderer.markup tokens node.withoutDecoration)) ∧
    (∀ target : Target,
      outline target.renderer.style.classAttribute (target.renderer.markup tokens node.withoutDecoration) =
        nodeOutline tokens node.withoutDecoration) ∧
    Target.vue.renderer.markup tokens node.withoutDecoration =
      rename "className" "class" (Target.react.renderer.markup tokens node.withoutDecoration) := by
  have shown : ∀ target : Target,
      outline target.renderer.style.classAttribute (target.renderer.markup tokens node.withoutDecoration) =
        nodeOutline tokens node.withoutDecoration :=
    fun target => (conforms_library target).outline_markupOf tokens node.withoutDecoration
  refine ⟨?_, shown, ?_⟩
  · intro first second
    rw [shown first, shown second]
  · have renamed := lacks_className.rename_markupOf "class" tokens node.withoutDecoration
    exact (markupOf_registry _ _ "class" tokens node.withoutDecoration).trans renamed.symm

end Handoff.Component
