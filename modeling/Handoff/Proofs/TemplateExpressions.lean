import Handoff.Proofs.AttributeValues
import Handoff.Proofs.PageSections
import Handoff.Proofs.TemplateReading

/-! Where a design can put an expression into a template. Doubled braces delimit one, in
texts and in attribute values alike. Texts are written without braces. Classes, names,
addresses and placeholders of the layers that are shown keep theirs, so a template has
doubled braces exactly when one of those has them. -/

namespace Handoff.Component
open Markup Classes

/-- What the element of a layer holds of the design, apart from its classes. -/
inductive Display where
  | text
  | picture
  | placeholder
  | slots
  | children

/-- How a library shows layers of a role. -/
def Library.display (library : Library) (role : Role) : Display :=
  match role, library.wrapper? role, library.cardParts with
  | .text, _, _ => .text
  | .divider, _, _ => .text
  | .image, _, _ => .picture
  | .card, some _, some _ => .slots
  | .button, some _, _ => .text
  | _, some wrapper, _ => if wrapper.hasSlot then .children else .placeholder
  | _, none, _ => .children

/-- The values that belong to the children that get elements of their own. -/
def Display.inside {α : Type} (node : Node) (values : List α) : Display → List α
  | .children => values
  | .slots =>
    let slots := (CardPlan.ofChildren node.children).distribute values
    slots.content ++ slots.footer.toList
  | .text | .picture | .placeholder => []

/-- What a layer puts into attributes beside its classes. -/
def Display.attributeTexts (node : Node) : Display → List String
  | .picture => [node.value.assetUrl.getD "", node.value.name]
  | .placeholder => node.firstText?.toList
  | .text | .slots | .children => []

namespace Library

/-- The design's texts in the attributes of a layer's own element. -/
def attributeTexts (library : Library) (tokens : Option TokenMap) (node : Node) : List String :=
  (nodeClasses node tokens).text :: (library.display node.value.role).attributeTexts node

mutual

/-- The layers that have an element in the markup of a design. -/
def shownLayers (library : Library) : Node → List Node
  | .node layer children =>
    .node layer children ::
      ((library.display layer.role).inside (.node layer children) (allShownLayers library children)).flatten

def allShownLayers (library : Library) : List Node → List (List Node)
  | [] => []
  | child :: rest => shownLayers library child :: allShownLayers library rest

end

private theorem allShownLayers_eq_map (library : Library) (children : List Node) :
    library.allShownLayers children = children.map library.shownLayers := by
  induction children with
  | nil => rfl
  | cons child rest ih => rw [allShownLayers, ih, List.map_cons]

end Library

private theorem Display.inside_map {α β : Type} (display : Display) (node : Node) (f : α → β) (values : List α) :
    display.inside node (values.map f) = (display.inside node values).map f := by
  cases display with
  | slots =>
    obtain ⟨-, content, footer⟩ := (CardPlan.ofChildren node.children).distribute_map values f
    rw [inside, inside, content, footer, List.map_append, Option.toList_map]
  | text => rfl
  | picture => rfl
  | placeholder => rfl
  | children => rfl

private theorem Display.mem_of_mem_inside {α : Type} {display : Display} {node : Node} {values : List α} {value : α}
    (member : value ∈ display.inside node values) : value ∈ values := by
  cases display with
  | children => exact member
  | slots =>
    rcases List.mem_append.mp member with inContent | inFooter
    · exact (CardPlan.mem_of_slot _ values).1 inContent
    · exact (CardPlan.mem_of_slot _ values).2 (Option.mem_toList.mp inFooter)
  | text => cases member
  | picture => cases member
  | placeholder => cases member

variable {d : Char}

theorem anyDoubled_classAttribute (name classes : String) :
    AnyDoubled d ((Markup.classAttribute name classes).filterMap Attribute.value?) ↔ Doubled d classes.toList := by
  unfold Markup.classAttribute
  split
  next empty => simp [String.isEmpty_iff.mp empty, not_doubled_nil]
  next => simp [Attribute.value?]

/-- The attributes that a library gives to its elements have no pair of a character. -/
def Library.Unpaired (library : Library) (d : Char) : Prop :=
  ∀ entry ∈ library.wrappers, ¬ AnyDoubled d (entry.2.properties.filterMap Attribute.value?)

instance (library : Library) (d : Char) : Decidable (library.Unpaired d) := inferInstanceAs (Decidable (∀ _ ∈ _, _))

theorem filterMap_value?_flags (names : List String) : (names.map Attribute.flag).filterMap Attribute.value? = [] := by
  rw [List.filterMap_map]
  exact List.filterMap_eq_nil_iff.mpr fun _ _ => rfl

private theorem Part.attributeValues_element (part : Part) (children : List Markup) :
    (part.element children).attributeValues = children.flatMap attributeValues := by
  rw [element, attributeValues, filterMap_value?_flags, List.nil_append, allAttributeValues_eq_flatMap]

/-- The values in a card are those in its content and in its footer. -/
theorem anyDoubled_cardChildren (parts : CardParts) (card : Node) (children : List Markup) :
    (∃ child ∈ cardChildren parts card children, AnyDoubled d child.attributeValues) ↔
      ∃ child ∈ Display.slots.inside card children, AnyDoubled d child.attributeValues := by
  simp only [cardChildren, Display.inside]
  generalize (CardPlan.ofChildren card.children).distribute children = slots
  obtain ⟨header, content, footer⟩ := slots
  cases header <;> cases content <;> cases footer <;>
    simp [Part.attributeValues_element, attributeValues, or_assoc]

theorem anyDoubled_element {tag : String} {attributes : List Attribute} {children : List Markup} :
    AnyDoubled d (attributeValues (.element tag attributes children)) ↔
      AnyDoubled d (attributes.filterMap Attribute.value?) ∨ ∃ child ∈ children, AnyDoubled d child.attributeValues := by
  rw [attributeValues, allAttributeValues_eq_flatMap, anyDoubled_append, anyDoubled_flatMap]

variable {library : Library} (unpaired : library.Unpaired d)
include unpaired

theorem Library.Unpaired.attributes {role : Role} {wrapper : Wrapper} (found : library.wrapper? role = some wrapper)
    (classAttribute classes : String) :
    AnyDoubled d ((wrapper.attributes classAttribute classes).filterMap Attribute.value?) ↔ Doubled d classes.toList := by
  have properties := unpaired _ (Library.mem_of_wrapper? found)
  rw [Wrapper.attributes, List.filterMap_append, List.filterMap_append, filterMap_value?_flags, List.nil_append,
    anyDoubled_append, anyDoubled_classAttribute, or_iff_left properties]

private theorem anyDoubled_wrapped {wrapper : Wrapper} {node : Node} (found : library.wrapper? node.value.role = some wrapper)
    (notText : node.value.role ≠ .text) (notDivider : node.value.role ≠ .divider) (notImage : node.value.role ≠ .image)
    (classAttribute classes : String) (children : List Markup) :
    AnyDoubled d (wrapped library wrapper classAttribute classes node children).attributeValues ↔
      AnyDoubled d (classes :: (library.display node.value.role).attributeTexts node) ∨
        ∃ child ∈ (library.display node.value.role).inside node children, AnyDoubled d child.attributeValues := by
  have own := unpaired.attributes found classAttribute classes
  unfold wrapped
  split
  next parts isCard partsFound =>
    have shown : library.display node.value.role = .slots := by
      rw [isCard] at found
      simp [Library.display, isCard, found, partsFound]
    rw [shown, Wrapper.element, anyDoubled_element, own, anyDoubled_cardChildren]
    simp [Display.attributeTexts]
  next isButton =>
    have shown : library.display node.value.role = .text := by
      rw [isButton] at found
      simp [Library.display, isButton, found]
    rw [shown, Wrapper.element, anyDoubled_element, own]
    simp [Display.attributeTexts, Display.inside, attributeValues]
  next notButton notCard =>
    have shown : library.display node.value.role = if wrapper.hasSlot then .children else .placeholder := by
      unfold Library.display
      split <;> simp_all
    rw [shown]
    split
    next =>
      rw [Wrapper.element, anyDoubled_element, own]
      simp [Display.attributeTexts, Display.inside]
    next =>
      rw [anyDoubled_element, List.filterMap_append, anyDoubled_append, own]
      cases text : node.firstText? <;> simp [Display.attributeTexts, Display.inside, Attribute.value?, text]

/-- One layer: its classes, what else it puts into attributes, and the children that are shown. -/
theorem anyDoubled_elementOf (classAttribute classes : String) (node : Node) (children : List Markup) :
    AnyDoubled d (elementOf library classAttribute classes node children).attributeValues ↔
      AnyDoubled d (classes :: (library.display node.value.role).attributeTexts node) ∨
        ∃ child ∈ (library.display node.value.role).inside node children, AnyDoubled d child.attributeValues := by
  have styling := anyDoubled_classAttribute (d := d) classAttribute classes
  unfold elementOf
  dsimp only
  split
  next isText =>
    have shown : library.display node.value.role = .text := by simp [Library.display, isText]
    rw [shown, anyDoubled_element, styling]
    simp [Display.attributeTexts, Display.inside, textChildren, attributeValues]
  next wrapper isDivider found =>
    have shown : library.display node.value.role = .text := by simp [Library.display, isDivider]
    rw [shown, Wrapper.element, anyDoubled_element, unpaired.attributes found]
    simp [Display.attributeTexts, Display.inside]
  next isDivider _ =>
    have shown : library.display node.value.role = .text := by simp [Library.display, isDivider]
    rw [shown, anyDoubled_element, styling]
    simp [Display.attributeTexts, Display.inside]
  next isImage =>
    have shown : library.display node.value.role = .picture := by simp [Library.display, isImage]
    rw [shown, anyDoubled_element, List.filterMap_append, anyDoubled_append, styling]
    simp [Display.attributeTexts, Display.inside, pictureAttributes, Attribute.value?]
  next wrapper found notText notDivider notImage =>
    exact anyDoubled_wrapped unpaired found notText (fun same => notDivider same) notImage classAttribute classes children
  next missing notText notDivider notImage =>
    have shown : library.display node.value.role = .children := by
      unfold Library.display
      split <;> simp_all
    rw [shown, anyDoubled_element, styling]
    simp [Display.attributeTexts, Display.inside]

/-- The attributes of a design's markup have a pair exactly when a text of a shown layer has one. -/
theorem anyDoubled_markupOf (classAttribute : String) (tokens : Option TokenMap) (node : Node) :
    AnyDoubled d (markupOf library classAttribute tokens node).attributeValues ↔
      ∃ shown ∈ library.shownLayers node, AnyDoubled d (library.attributeTexts tokens shown) := by
  induction node using Tree.childInduction with
  | node layer children ih =>
    let chosen := (library.display layer.role).inside (.node layer children) children
    have inside : (∃ child ∈ chosen.map (markupOf library classAttribute tokens), AnyDoubled d child.attributeValues) ↔
        ∃ shown ∈ (chosen.map library.shownLayers).flatten, AnyDoubled d (library.attributeTexts tokens shown) := by
      constructor
      · rintro ⟨_, written, doubled⟩
        obtain ⟨child, kept, rfl⟩ := List.mem_map.mp written
        obtain ⟨shown, listed, own⟩ := (ih child (Display.mem_of_mem_inside kept)).mp doubled
        exact ⟨shown, List.mem_flatten.mpr ⟨_, List.mem_map_of_mem kept, listed⟩, own⟩
      · rintro ⟨shown, member, own⟩
        obtain ⟨_, written, listed⟩ := List.mem_flatten.mp member
        obtain ⟨child, kept, rfl⟩ := List.mem_map.mp written
        exact ⟨_, List.mem_map_of_mem kept, (ih child (Display.mem_of_mem_inside kept)).mpr ⟨shown, listed, own⟩⟩
    rw [markupOf, anyDoubled_elementOf unpaired, allMarkupOf_eq_map, Display.inside_map, Library.shownLayers,
      Library.allShownLayers_eq_map, Display.inside_map, List.exists_mem_cons_iff]
    exact or_congr Iff.rfl inside

end Handoff.Component

namespace Handoff
open Component Markup Classes

/-- The template of a design, as it stands in a target's file. -/
def Target.template (target : Target) (tokens : Option TokenMap) (node : Node) : String :=
  target.renderer.style.print (target.renderer.markup tokens node.withoutDecoration)

theorem Target.doubled_template_iff (target : Target) {d : Char} (foreign : Foreign target.renderer.style d)
    (spares : Spares attributeEntities d) (unpaired : target.renderer.library.Unpaired d) (tokens : Option TokenMap)
    (node : Node) :
    Doubled d (target.template tokens node).toList ↔
      ∃ shown ∈ target.renderer.library.shownLayers node.withoutDecoration,
        AnyDoubled d (target.renderer.library.attributeTexts tokens shown) := by
  rw [template, foreign.doubled_print_iff spares (target.legible_markup tokens node.withoutDecoration)]
  exact anyDoubled_markupOf unpaired _ tokens node.withoutDecoration

namespace Component.Angular

theorem doubled_opening_iff (tokens : Option TokenMap) (node : Node) :
    Doubled '\x7b' (Target.angular.template tokens node).toList ↔
      ∃ shown ∈ library.shownLayers node.withoutDecoration, AnyDoubled '\x7b' (library.attributeTexts tokens shown) :=
  Target.angular.doubled_template_iff Target.angular.sound_style.openBrace (by decide) (by decide) tokens node

theorem doubled_closing_iff (tokens : Option TokenMap) (node : Node) :
    Doubled '\x7d' (Target.angular.template tokens node).toList ↔
      ∃ shown ∈ library.shownLayers node.withoutDecoration, AnyDoubled '\x7d' (library.attributeTexts tokens shown) :=
  Target.angular.doubled_template_iff Target.angular.sound_style.closeBrace (by decide) (by decide) tokens node

/-- No text of a design is evaluated as an expression, but an attribute may be: the template
has doubled braces exactly when the classes, the name or the address of a picture, or the
placeholder of a layer that is shown have them. -/
theorem expressions_template (tokens : Option TokenMap) (node : Node) :
    ('\x7b' ∉ outsideValues .content (Target.angular.template tokens node).toList ∧
      '\x7d' ∉ outsideValues .content (Target.angular.template tokens node).toList) ∧
    (Doubled '\x7b' (Target.angular.template tokens node).toList ↔
      ∃ shown ∈ library.shownLayers node.withoutDecoration, AnyDoubled '\x7b' (library.attributeTexts tokens shown)) ∧
    (Doubled '\x7d' (Target.angular.template tokens node).toList ↔
      ∃ shown ∈ library.shownLayers node.withoutDecoration, AnyDoubled '\x7d' (library.attributeTexts tokens shown)) := by
  have readable := Target.angular.sound_style.readsAs (Target.angular.legible_markup tokens node.withoutDecoration)
  exact ⟨⟨readable.openBrace, readable.closeBrace⟩, doubled_opening_iff tokens node, doubled_closing_iff tokens node⟩

/-- A picture whose name is an expression. -/
def namedPicture : Node := .node (.bare "1:1" "\x7b\x7b 7 * 7 \x7d\x7d" .image) []

/-- The name becomes the alternative text, braces and all. -/
theorem expression_in_name :
    Doubled '\x7b' (Target.angular.template none namedPicture).toList ∧
      Doubled '\x7d' (Target.angular.template none namedPicture).toList := by
  have named : "\x7b\x7b 7 * 7 \x7d\x7d" ∈ library.attributeTexts none namedPicture := by
    simp [Library.attributeTexts, Library.display, Display.attributeTexts, namedPicture, Layer.bare, Tree.value]
  constructor
  · exact (doubled_opening_iff none namedPicture).mpr ⟨_, List.mem_cons_self, _, named, by decide⟩
  · exact (doubled_closing_iff none namedPicture).mpr ⟨_, List.mem_cons_self, _, named, by decide⟩

end Component.Angular

end Handoff
