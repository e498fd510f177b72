import Handoff.Component.Targets
import Handoff.Proofs.LoweredMarkup
import Handoff.Proofs.PageSections

/-! The slots of a card hold each of its children once. Children are told apart by their places
and not by what they are, so two that are equal are two all the same. The parts of a card's
markup are made of what the slots hold, and a part whose slot is empty is left out. -/

namespace Handoff.Component
open Classes (TokenMap)

def CardSlots.map {α β : Type} (slots : CardSlots α) (f : α → β) : CardSlots β where
  header := slots.header.map f
  content := slots.content.map f
  footer := slots.footer.map f

/-- A place that passes a test when none before it does. -/
def IsFirst {count : Nat} (test : Fin count → Prop) (place : Fin count) : Prop :=
  test place ∧ ∀ earlier < place, ¬ test earlier

/-- A word is part of a layer's label in small letters. -/
def MentionsInLabel (word : String) (node : Node) : Prop :=
  word.toList <:+: (Text.lowercase node.value.name).toList

/-- Children are sorted by their labels: the first that mentions a header is the header, the
first other one that mentions a footer is the footer, and the rest stays in its order. -/
structure IsSplit (children : List Node) (places : CardSlots (Fin children.length)) : Prop where
  header : ∀ place, places.header = some place ↔
    IsFirst (fun place => MentionsInLabel "header" children[place]) place
  footer : ∀ place, places.footer = some place ↔
    IsFirst (fun place => places.header ≠ some place ∧ MentionsInLabel "footer" children[place]) place
  ordered : places.content.Pairwise (· < ·)
  each_once : (places.header.toList ++ places.content ++ places.footer.toList).Perm (List.finRange children.length)

theorem isLabelled_iff {word : String} {node : Node} : isLabelled word node = true ↔ MentionsInLabel word node := by
  rw [isLabelled, Text.occursIn_iff_isInfix, MentionsInLabel, Text.lowercase, String.toList_ofList]

/-! Places among the children -/

/-- The places that a card's slots hold. -/
def placesOf (children : List Node) : CardSlots (Fin children.length) :=
  (CardPlan.ofChildren children).distribute (List.finRange children.length)

variable {children : List Node}

theorem bind_finRange_eq_some_iff {count : Nat} {slot : Option Nat} {place : Fin count} :
    slot.bind ((List.finRange count)[·]?) = some place ↔ slot = some place.val := by
  cases slot with
  | none => simp
  | some index =>
    rw [Option.bind_some, List.getElem?_eq_some_iff, Option.some_inj]
    constructor
    · rintro ⟨inside, rfl⟩
      simp
    · rintro rfl
      exact ⟨by simp, by simp⟩

theorem header_placesOf {place : Fin children.length} :
    (placesOf children).header = some place ↔ (CardPlan.ofChildren children).header = some place.val :=
  bind_finRange_eq_some_iff

theorem footer_placesOf {place : Fin children.length} :
    (placesOf children).footer = some place ↔ (CardPlan.ofChildren children).footer = some place.val :=
  bind_finRange_eq_some_iff

private theorem zipIdx_finRange (count : Nat) :
    (List.finRange count).zipIdx = (List.finRange count).map fun place => (place, place.val) := by
  apply List.ext_getElem
  · simp
  · intro index _ _
    simp

theorem content_placesOf : (placesOf children).content = (List.finRange children.length).filter fun place =>
    some place.val != (CardPlan.ofChildren children).header && some place.val != (CardPlan.ofChildren children).footer := by
  simp only [placesOf, CardPlan.distribute, zipIdx_finRange, List.filter_map, List.map_map]
  exact List.map_id _

private theorem mem_content_placesOf {place : Fin children.length} : place ∈ (placesOf children).content ↔
    (placesOf children).header ≠ some place ∧ (placesOf children).footer ≠ some place := by
  rw [content_placesOf, List.mem_filter, Bool.and_eq_true, bne_iff_ne, bne_iff_ne, ne_comm, ne_comm (a := some place.val)]
  simp only [ne_eq, header_placesOf, footer_placesOf, List.mem_finRange, true_and]

private theorem pairwise_content_placesOf : (placesOf children).content.Pairwise (· < ·) := by
  rw [content_placesOf]
  exact (List.pairwise_lt_finRange _).filter _

private theorem header_isFirst {place : Fin children.length} : (placesOf children).header = some place ↔
    IsFirst (fun place => MentionsInLabel "header" children[place]) place := by
  rw [header_placesOf, CardPlan.ofChildren, List.findIdx?_eq_some_iff_getElem]
  constructor
  · rintro ⟨inside, here, before⟩
    refine ⟨isLabelled_iff.mp here, fun earlier sooner mentioned => ?_⟩
    exact before earlier.val sooner (isLabelled_iff.mpr mentioned)
  · rintro ⟨here, before⟩
    refine ⟨place.isLt, isLabelled_iff.mpr here, fun index sooner labelled => ?_⟩
    exact before ⟨index, Nat.lt_trans sooner place.isLt⟩ sooner (isLabelled_iff.mp labelled)

private theorem footer_isFirst {place : Fin children.length} : (placesOf children).footer = some place ↔
    IsFirst (fun place => (placesOf children).header ≠ some place ∧ MentionsInLabel "footer" children[place]) place := by
  have test : ∀ place : Fin children.length,
      (some place.val != (CardPlan.ofChildren children).header && isLabelled "footer" children[place]) = true ↔
        (placesOf children).header ≠ some place ∧ MentionsInLabel "footer" children[place] := by
    intro place
    rw [Bool.and_eq_true, bne_iff_ne, isLabelled_iff, Ne, Ne, header_placesOf, eq_comm]
  rw [footer_placesOf]
  change firstOther _ (CardPlan.ofChildren children).header children = _ ↔ _
  rw [firstOther, List.findIdx?_eq_some_iff_getElem]
  simp only [List.length_zipIdx, List.getElem_zipIdx, Nat.zero_add]
  constructor
  · rintro ⟨inside, here, before⟩
    refine ⟨(test place).mp here, fun earlier sooner other => ?_⟩
    exact before earlier.val sooner ((test earlier).mpr other)
  · rintro ⟨here, before⟩
    refine ⟨place.isLt, (test place).mpr here, fun index sooner other => ?_⟩
    exact before ⟨index, Nat.lt_trans sooner place.isLt⟩ sooner ((test _).mp other)

/-- Slots hold every place once when the header is not the footer and the rest is content. -/
theorem perm_finRange {count : Nat} {places : CardSlots (Fin count)}
    (apart : ∀ place, places.footer = some place → places.header ≠ some place)
    (distinct : places.content.Nodup)
    (rest : ∀ place, place ∈ places.content ↔ places.header ≠ some place ∧ places.footer ≠ some place) :
    (places.header.toList ++ places.content ++ places.footer.toList).Perm (List.finRange count) := by
  have single : ∀ slot : Option (Fin count), slot.toList.Nodup := by
    intro slot
    cases slot <;> simp
  have nodup : (places.header.toList ++ places.content ++ places.footer.toList).Nodup := by
    refine List.nodup_append.mpr ⟨List.nodup_append.mpr ⟨single _, distinct, ?_⟩, single _, ?_⟩
    · rintro place atHeader _ inContent rfl
      exact ((rest place).mp inContent).1 (Option.mem_toList.mp atHeader)
    · rintro place before _ atFooter rfl
      have footer := Option.mem_toList.mp atFooter
      rcases List.mem_append.mp before with atHeader | inContent
      · exact apart place footer (Option.mem_toList.mp atHeader)
      · exact ((rest place).mp inContent).2 footer
  refine (List.perm_ext_iff_of_nodup nodup (List.nodup_finRange count)).mpr fun place => ?_
  refine ⟨fun _ => List.mem_finRange place, fun _ => ?_⟩
  rw [List.mem_append, List.mem_append, rest, Option.mem_toList, Option.mem_toList]
  by_cases header : places.header = some place
  · exact .inl (.inl header)
  · by_cases footer : places.footer = some place
    · exact .inr footer
    · exact .inl (.inr ⟨header, footer⟩)

private theorem isSplit_placesOf (children : List Node) : IsSplit children (placesOf children) where
  header _ := header_isFirst
  footer _ := footer_isFirst
  ordered := pairwise_content_placesOf
  each_once := by
    refine perm_finRange (fun place footer => ?_) ?_ fun _ => mem_content_placesOf
    · exact (footer_isFirst.mp footer).1.1
    · exact pairwise_content_placesOf.imp fun before => Fin.ne_of_lt before

private theorem distribute_children (children : List Node) :
    (CardPlan.ofChildren children).distribute children = (placesOf children).map (children[·]) := by
  obtain ⟨header, content, footer⟩ := (CardPlan.ofChildren children).distribute_map (List.finRange children.length) (children[·])
  have every : (List.finRange children.length).map (children[·]) = children := List.map_get_finRange children
  rw [every] at header content footer
  rw [CardSlots.map, placesOf, ← header, ← content, ← footer]

/-! The parts of a card's markup -/

def CardParts.titled (parts : CardParts) (title : String) : Markup :=
  parts.header.element [parts.title.element [.text title]]

/-- The parts of a card by what its slots hold: a title, all of the content, and a footer. -/
def CardParts.filled (parts : CardParts) (label : String) (lowered : Node → Markup) (slots : CardSlots Node) : List Markup :=
  let header := match slots.header with
    | some header => [parts.titled (header.firstText?.getD label)]
    | none => []
  let content := match slots.content with
    | [] => []
    | first :: others => [parts.content.element (lowered first :: others.map lowered)]
  let footer := match slots.footer with
    | some footer => [parts.footer.element [lowered footer]]
    | none => []
  header ++ content ++ footer

private theorem cardChildren_map (parts : CardParts) (card : Node) (lowered : Node → Markup) :
    cardChildren parts card (card.children.map lowered) =
      parts.filled card.value.name lowered ((CardPlan.ofChildren card.children).distribute card.children) := by
  obtain ⟨-, content, footer⟩ := (CardPlan.ofChildren card.children).distribute_map card.children lowered
  have header : ((CardPlan.ofChildren card.children).distribute (card.children.map lowered)).header =
      ((CardPlan.ofChildren card.children).distribute card.children).header.map lowered :=
    ((CardPlan.ofChildren card.children).distribute_map card.children lowered).1
  unfold cardChildren
  dsimp only
  rw [header, content, footer]
  generalize (CardPlan.ofChildren card.children).distribute card.children = slots
  obtain ⟨header, content, footer⟩ := slots
  cases header <;> cases content <;> cases footer <;> rfl

private theorem markupOf_card {library : Library} {classAttribute : String} {tokens : Option TokenMap} {card : Node}
    {wrapper : Wrapper} {parts : CardParts} (role : card.value.role = .card)
    (found : library.wrapper? .card = some wrapper) (listed : library.cardParts = some parts) :
    markupOf library classAttribute tokens card =
      wrapper.element classAttribute (Classes.nodeClasses card tokens).text
        (cardChildren parts card (card.children.map (markupOf library classAttribute tokens))) := by
  cases card with
  | node layer children =>
    change layer.role = .card at role
    rw [markupOf, allMarkupOf_eq_map, elementOf]
    simp only [Tree.value, role, found, wrapped, listed]
    rfl

/-- A card's children are sorted into slots that lose and repeat none of them, and every library
with parts for cards shows what each slot holds in a part of its own. -/
theorem card_keeps_children {card : Node} (role : card.value.role = .card) :
    ∃ places : CardSlots (Fin card.children.length), IsSplit card.children places ∧
      (CardPlan.ofChildren card.children).distribute card.children = places.map (card.children[·]) ∧
      ∀ (library : Library) (classAttribute : String) (tokens : Option TokenMap) (wrapper : Wrapper) (parts : CardParts),
        library.wrapper? .card = some wrapper → library.cardParts = some parts →
          markupOf library classAttribute tokens card =
            wrapper.element classAttribute (Classes.nodeClasses card tokens).text
              (parts.filled card.value.name (markupOf library classAttribute tokens) (places.map (card.children[·]))) := by
  refine ⟨placesOf card.children, isSplit_placesOf card.children, distribute_children card.children, ?_⟩
  intro library classAttribute tokens wrapper parts found listed
  rw [markupOf_card role found listed, cardChildren_map, distribute_children]

/-- A layer that shows a text. -/
def shownText (id label text : String) : Node := .node { Layer.bare id label .text with textContent := some text } []

/-- A card whose first child mentions both a header and a footer, with two equal texts and a
footer in capitals. -/
def planCard : Node :=
  .node (.bare "1:1" "Plan" .card)
    [.node (.bare "2:1" "Header and footer" .container) [shownText "2:2" "Title" "Pro"], shownText "3:1" "Price" "$12",
      shownText "3:1" "Price" "$12", shownText "4:1" "FOOTER" "Yearly", shownText "5:1" "header" "More"]

theorem card_keeps_children_plan :
    planCard.value.role = .card ∧ React.library.cardParts = some Registry.cardParts ∧
      ∃ wrapper, React.library.wrapper? .card = some wrapper ∧
        (∃ places : CardSlots (Fin planCard.children.length), IsSplit planCard.children places) ∧
        markupOf React.library "className" none planCard =
          wrapper.element "className" (Classes.nodeClasses planCard none).text
            [Registry.cardParts.titled "Pro",
              Registry.cardParts.content.element
                ([shownText "3:1" "Price" "$12", shownText "3:1" "Price" "$12", shownText "5:1" "header" "More"].map
                  (markupOf React.library "className" none)),
              Registry.cardParts.footer.element
                [markupOf React.library "className" none (shownText "4:1" "FOOTER" "Yearly")]] := by
  refine ⟨rfl, rfl, _, rfl, ?_⟩
  obtain ⟨places, split, slots, shown⟩ := @card_keeps_children planCard rfl
  refine ⟨⟨places, split⟩, ?_⟩
  have sorted : (CardPlan.ofChildren planCard.children).distribute planCard.children =
      ⟨planCard.children[0]?, [shownText "3:1" "Price" "$12", shownText "3:1" "Price" "$12", shownText "5:1" "header" "More"],
        planCard.children[3]?⟩ := rfl
  have title : Node.firstText? (.node (.bare "2:1" "Header and footer" .container) [shownText "2:2" "Title" "Pro"]) = some "Pro" := by
    decide +kernel
  rw [shown React.library "className" none _ Registry.cardParts rfl rfl, ← slots, sorted]
  simp only [CardParts.filled, planCard, Tree.children, List.getElem?_cons_zero, List.getElem?_cons_succ, title]
  rfl

end Handoff.Component
