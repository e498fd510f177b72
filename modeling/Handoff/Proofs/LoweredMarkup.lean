import Handoff.Component.Targets
import Handoff.Page.Document
import Handoff.Proofs.MarkupZones
import Handoff.Proofs.Trees

/-! What the markup of a layer looks like for every target and for plain pages. Names come
from the libraries and are plain; texts, names of layers and addresses only ever become
texts and attribute values. A text is the one child of its element. -/

namespace Handoff.Component
open Markup Classes

def Wrapper.Legible (wrapper : Wrapper) : Prop :=
  IsName wrapper.tag ∧ (∀ directive ∈ wrapper.directives, IsName directive) ∧ ∀ property ∈ wrapper.properties,
    IsName property.name

instance (wrapper : Wrapper) : Decidable wrapper.Legible := inferInstanceAs (Decidable (_ ∧ _))

def Part.Legible (part : Part) : Prop := IsName part.tag ∧ ∀ directive ∈ part.directives, IsName directive

instance (part : Part) : Decidable part.Legible := inferInstanceAs (Decidable (_ ∧ _))

structure CardParts.Legible (parts : CardParts) : Prop where
  header : parts.header.Legible
  title : parts.title.Legible
  content : parts.content.Legible
  footer : parts.footer.Legible

structure Library.Legible (library : Library) : Prop where
  wrappers : ∀ entry ∈ library.wrappers, entry.2.Legible
  parts : ∀ parts, library.cardParts = some parts → parts.Legible

theorem allMarkupOf_eq_map (library : Library) (classAttribute : String) (tokens : Option TokenMap)
    (children : List Node) :
    allMarkupOf library classAttribute tokens children = children.map (markupOf library classAttribute tokens) := by
  induction children with
  | nil => rfl
  | cons child rest ih => rw [allMarkupOf, ih, List.map_cons]

theorem named_classAttribute {name : String} (named : IsName name) (classes : String) :
    ∀ written ∈ Markup.classAttribute name classes, IsName written.name := by
  intro written member
  unfold Markup.classAttribute at member
  split at member
  · cases member
  · rw [List.mem_singleton] at member
    subst member
    exact named

theorem named_flags {names : List String} (named : ∀ name ∈ names, IsName name) :
    ∀ written ∈ names.map Attribute.flag, IsName written.name := by
  intro written member
  obtain ⟨name, inside, rfl⟩ := List.mem_map.mp member
  exact named name inside

theorem named_append {first second : List Attribute} (left : ∀ written ∈ first, IsName written.name)
    (right : ∀ written ∈ second, IsName written.name) : ∀ written ∈ first ++ second, IsName written.name := by
  intro written member
  rcases List.mem_append.mp member with inside | inside
  · exact left written inside
  · exact right written inside

theorem Wrapper.named_attributes {wrapper : Wrapper} (legible : wrapper.Legible) {classAttribute : String}
    (named : IsName classAttribute) (classes : String) :
    ∀ written ∈ wrapper.attributes classAttribute classes, IsName written.name :=
  named_append (named_append (named_flags legible.2.1) (named_classAttribute named classes)) legible.2.2

theorem Wrapper.legible_element {wrapper : Wrapper} (legible : wrapper.Legible) {classAttribute : String}
    (named : IsName classAttribute) (classes : String) {children : List Markup}
    (inside : ∀ child ∈ children, Markup.Legible child) : (wrapper.element classAttribute classes children).Legible :=
  .block legible.1 (wrapper.named_attributes legible named classes) inside

private theorem Part.legible_element {part : Part} (legible : part.Legible) {children : List Markup}
    (inside : ∀ child ∈ children, Markup.Legible child) : (part.element children).Legible :=
  .block legible.1 (named_flags legible.2) inside

/-- The slots of a card hold children of the card. -/
theorem CardPlan.mem_of_slot {α : Type} (plan : CardPlan) (values : List α) {value : α} :
    (value ∈ (plan.distribute values).content → value ∈ values) ∧
      (value ∈ (plan.distribute values).footer → value ∈ values) := by
  constructor
  · intro member
    obtain ⟨⟨other, index⟩, kept, rfl⟩ := List.mem_map.mp member
    exact List.fst_mem_of_mem_zipIdx (List.mem_filter.mp kept).1
  · intro member
    obtain ⟨index, -, found⟩ := Option.bind_eq_some_iff.mp member
    exact List.mem_of_getElem? found

/-- Sorting into slots goes by places alone, so it may be done before or after a change
to every value. -/
theorem CardPlan.distribute_map {α β : Type} (plan : CardPlan) (values : List α) (f : α → β) :
    (plan.distribute (values.map f)).header = (plan.distribute values).header.map f ∧
      (plan.distribute (values.map f)).content = (plan.distribute values).content.map f ∧
      (plan.distribute (values.map f)).footer = (plan.distribute values).footer.map f := by
  have placed : ∀ place : Option Nat, place.bind ((values.map f)[·]?) = (place.bind (values[·]?)).map f := by
    intro place
    cases place <;> simp
  refine ⟨placed _, ?_, placed _⟩
  simp only [CardPlan.distribute, List.zipIdx_map, List.filter_map, List.map_map]
  rfl

private theorem legible_cardChildren {parts : CardParts} (legible : parts.Legible) (card : Node)
    {children : List Markup} (inside : ∀ child ∈ children, Markup.Legible child) :
    ∀ child ∈ cardChildren parts card children, Markup.Legible child := by
  let plan := CardPlan.ofChildren card.children
  intro child member
  simp only [cardChildren, List.mem_append] at member
  rcases member with (fromHeader | fromContent) | fromFooter
  · obtain ⟨_, -, rfl⟩ := List.mem_map.mp fromHeader
    refine Part.legible_element legible.header ?_
    intro title member
    rw [List.mem_singleton] at member
    subst member
    exact .label legible.title.1 (named_flags legible.title.2) _
  · split at fromContent
    · cases fromContent
    · rw [List.mem_singleton] at fromContent
      subst fromContent
      exact Part.legible_element legible.content fun child kept => inside child ((plan.mem_of_slot children).1 kept)
  · obtain ⟨footer, kept, rfl⟩ := List.mem_map.mp fromFooter
    refine Part.legible_element legible.footer ?_
    intro child member
    rw [List.mem_singleton] at member
    subst member
    exact inside child ((plan.mem_of_slot children).2 (Option.mem_toList.mp kept))

/-- An element around the text of a layer: without a text it is empty. -/
theorem legible_textElement {tag : String} (named : IsName tag) {attributes : List Attribute}
    (attributesNamed : ∀ written ∈ attributes, IsName written.name) (layer : Layer) :
    Markup.Legible (.element tag attributes (textChildren layer)) := by
  unfold textChildren
  cases layer.text? with
  | none => exact .block named attributesNamed (by simp)
  | some text => exact .label named attributesNamed text

theorem named_pictureAttributes (layer : Layer) : ∀ written ∈ pictureAttributes layer, IsName written.name := by
  intro written member
  simp only [pictureAttributes, List.mem_cons, List.not_mem_nil, or_false] at member
  rcases member with rfl | rfl
  · exact (by decide : IsName "src")
  · exact (by decide : IsName "alt")

theorem Library.mem_of_wrapper? {library : Library} {role : Role} {wrapper : Wrapper}
    (found : library.wrapper? role = some wrapper) : (role, wrapper) ∈ library.wrappers := by
  obtain ⟨⟨other, listed⟩, hit, rfl⟩ := Option.map_eq_some_iff.mp found
  have same : other = role := by simpa using List.find?_some hit
  exact same ▸ List.mem_of_find?_eq_some hit

variable {library : Library} (legible : library.Legible) {classAttribute : String} (named : IsName classAttribute)
include legible named

private theorem legible_wrapped {wrapper : Wrapper} (wrapperLegible : wrapper.Legible) (classes : String) (node : Node)
    {children : List Markup} (inside : ∀ child ∈ children, Markup.Legible child) :
    (wrapped library wrapper classAttribute classes node children).Legible := by
  have attributesNamed := wrapper.named_attributes wrapperLegible named classes
  unfold wrapped
  split
  next parts _ found =>
    exact Wrapper.legible_element wrapperLegible named classes
      (legible_cardChildren (legible.parts parts found) node inside)
  next => exact .label wrapperLegible.1 attributesNamed _
  next =>
    split
    · exact Wrapper.legible_element wrapperLegible named classes inside
    · refine .block wrapperLegible.1 (named_append attributesNamed ?_) (by simp)
      intro written member
      obtain ⟨text, -, rfl⟩ := List.mem_map.mp member
      exact (by decide : IsName "placeholder")

private theorem legible_elementOf (classes : String) (node : Node) {children : List Markup}
    (inside : ∀ child ∈ children, Markup.Legible child) :
    (elementOf library classAttribute classes node children).Legible := by
  have styling := named_classAttribute named classes
  have none : ∀ child ∈ ([] : List Markup), Markup.Legible child := by simp
  unfold elementOf
  dsimp only
  split
  next => exact legible_textElement (by decide) styling _
  next found => exact Wrapper.legible_element (legible.wrappers _ (library.mem_of_wrapper? found)) named classes none
  next => exact .block (by decide) styling none
  next => exact .block (by decide) (named_append styling (named_pictureAttributes _)) none
  next found _ _ _ =>
    exact legible_wrapped legible named (legible.wrappers _ (library.mem_of_wrapper? found)) classes node inside
  next => exact .block (by decide) styling inside

theorem legible_markupOf (tokens : Option TokenMap) (node : Node) :
    (markupOf library classAttribute tokens node).Legible := by
  induction node using Tree.childInduction with
  | node layer children ih =>
    rw [markupOf]
    refine legible_elementOf legible named _ _ ?_
    intro child member
    rw [allMarkupOf_eq_map] at member
    obtain ⟨inner, inside, rfl⟩ := List.mem_map.mp member
    exact ih inner inside

omit legible named in
/-- Every target takes its names from a library that can be read. -/
theorem legible_library (target : Target) : target.renderer.library.Legible := by
  cases target with
  | react =>
    refine ⟨by decide, ?_⟩
    rintro _ ⟨⟩
    exact ⟨by decide, by decide, by decide, by decide⟩
  | vue =>
    refine ⟨by decide, ?_⟩
    rintro _ ⟨⟩
    exact ⟨by decide, by decide, by decide, by decide⟩
  | angular =>
    refine ⟨by decide, ?_⟩
    rintro _ ⟨⟩
    exact ⟨by decide, by decide, by decide, by decide⟩

end Handoff.Component
