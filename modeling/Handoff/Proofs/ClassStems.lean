import Handoff.Proofs.ClassCharacters
import Handoff.Proofs.NumberText

/-! How classes begin. The classes of each stage have a few stems, and no blank as far as
variables have none. The stems of a class tell which stages it can come from. -/

namespace Handoff

namespace Binary64
open Json

/-- What numbers in classes are written with. -/
def isNumeral (c : Char) : Bool := c.isDigit || "-.infNa".toList.contains c

private theorem isNumeral_of_allDigits {digits : List Char} (all : AllDigits digits) : ∀ c ∈ digits, isNumeral c = true :=
  fun c member => Bool.or_eq_true_iff.mpr (.inl (all c member))

private theorem isNumeral_positional (d : Decimal) : ∀ c ∈ (d.positional "").toList, isNumeral c = true := by
  have digits := isNumeral_of_allDigits (allDigits_repr d.digits)
  have zeros : ∀ count, ∀ c ∈ (Decimal.zeros count).toList, isNumeral c = true := by
    intro count
    rw [Decimal.zeros, String.toList_ofList]
    exact isNumeral_of_allDigits (allDigits_zeros count)
  unfold Decimal.positional Decimal.digitText
  dsimp only
  split
  · simp only [String.toList_append, List.forall_mem_append]
    exact ⟨⟨digits, zeros _⟩, by decide⟩
  split
  · simp only [String.toList_append, String.toList_ofList, List.forall_mem_append]
    exact ⟨⟨fun c member => digits c (List.mem_of_mem_take member), by decide⟩, fun c member => digits c (List.mem_of_mem_drop member)⟩
  · simp only [String.toList_append, List.forall_mem_append]
    exact ⟨⟨by decide, zeros _⟩, digits⟩

theorem isNumeral_plain (x : Binary64) : ∀ c ∈ x.plain.toList, isNumeral c = true := by
  unfold plain TextLayout.write
  split
  next => decide
  next => split <;> decide
  next =>
    simp only [String.toList_append, List.forall_mem_append]
    constructor
    · split <;> decide
    · have written : ∀ d, plainLayout.writeDecimal d = d.positional "" := fun _ => rfl
      rw [written, written]
      split
      · exact isNumeral_positional _
      · exact isNumeral_positional _

end Binary64

namespace Classes
open Text

private theorem isBlank_of_isNumeral {c : Char} (numeral : Binary64.isNumeral c = true) : isBlank c = false := by
  rcases Bool.or_eq_true_iff.mp numeral with digit | other
  · exact isBlank_of_isDigit digit
  · exact (by decide : ∀ c ∈ "-.infNa".toList, isBlank c = false) c (List.contains_iff_mem.mp other)

private theorem isSolid_plain (x : Binary64) :
    IsSolid x.plain := fun c member => isBlank_of_isNumeral (x.isNumeral_plain c member)

/-- A class that begins with one of given stems, and has no blank unless a variable has one. -/
structure HasStem (tokens : Option TokenMap) (stems : List String) (name : String) : Prop where
  begins : ∃ stem ∈ stems, stem.toList <+: name.toList
  solid : KeepSolid tokens → IsSolid name

/-- Stems of which none begins another. -/
def Apart (stems others : List String) : Prop :=
  ∀ stem ∈ stems, ∀ other ∈ others, ¬stem.toList <+: other.toList ∧ ¬other.toList <+: stem.toList

instance (stems others : List String) : Decidable (Apart stems others) :=
  inferInstanceAs (Decidable (∀ stem ∈ stems, ∀ other ∈ others, _))

section

variable {tokens : Option TokenMap} {stems others : List String} {name : String}

/-- Words that stand in classes as they are. -/
theorem hasStem_word {word : String} (fixed : IsSolid word ∧ ∃ stem ∈ stems, stem.toList <+: word.toList) : HasStem tokens stems word :=
  ⟨fixed.2, fun _ => fixed.1⟩

theorem HasStem.append {rest : String} (first : HasStem tokens stems name) (solid : KeepSolid tokens → IsSolid rest) :
    HasStem tokens stems (name ++ rest) := by
  obtain ⟨⟨stem, listed, begins⟩, before⟩ := first
  refine ⟨⟨stem, listed, ?_⟩, fun whole => (before whole).append (solid whole)⟩
  rw [String.toList_append]
  exact begins.trans (List.prefix_append _ _)

theorem HasStem.mono (own : HasStem tokens stems name) (shorter : ∀ stem ∈ stems, ∃ other ∈ others, other.toList <+: stem.toList) :
    HasStem tokens others name := by
  obtain ⟨⟨stem, listed, begins⟩, solid⟩ := own
  obtain ⟨other, known, first⟩ := shorter stem listed
  exact ⟨⟨other, known, first.trans begins⟩, solid⟩

theorem HasStem.of_subset (own : HasStem tokens stems name) (subset : stems ⊆ others) : HasStem tokens others name :=
  own.mono fun stem listed => ⟨stem, subset listed, List.prefix_rfl⟩

theorem HasStem.ne {other : String} (own : HasStem tokens stems name) (different : ∀ stem ∈ stems, ¬stem.toList <+: other.toList) :
    name ≠ other := by
  obtain ⟨stem, listed, begins⟩ := own.begins
  rintro rfl
  exact different stem listed begins

/-- Two beginnings of one class cannot be apart. -/
theorem HasStem.not_isPrefix (own : HasStem tokens stems name) (apart : Apart stems others) :
    ∀ other ∈ others, ¬other.toList <+: name.toList := by
  intro other known second
  obtain ⟨stem, listed, first⟩ := own.begins
  rcases List.prefix_or_prefix_of_prefix first second with before | before
  · exact (apart stem listed other known).1 before
  · exact (apart stem listed other known).2 before

end

/-! The stems of each stage -/

section

variable {tokens : Option TokenMap} {stems : List String}

theorem hasStem_colorClass {purpose : String} (word : HasStem tokens stems (purpose ++ "-")) (color : Color) :
    HasStem tokens stems (colorClass purpose color tokens) := by
  refine (word.append (isSolid_colorName color)).append fun _ => ?_
  split
  · exact IsSolid.append (by decide) (isSolid_toString _)
  · decide

theorem hasStem_pixels {purpose : String} (word : HasStem tokens stems purpose) (pixels : Binary64) :
    HasStem tokens stems (purpose ++ pixels.plain ++ "px]") :=
  (word.append fun _ => isSolid_plain pixels).append fun _ => by decide

def fillStems : List String := ["bg-", "from-", "to-", "via-"]

theorem hasStem_fillClass (fill : Fill) : ∀ name ∈ fillClass tokens fill, HasStem tokens fillStems name := by
  have known : ∀ purpose ∈ ["bg", "from", "to", "via"], ∀ color, HasStem tokens fillStems (colorClass purpose color tokens) := by
    have words : ∀ purpose ∈ ["bg", "from", "to", "via"],
        IsSolid (purpose ++ "-") ∧ ∃ stem ∈ fillStems, stem.toList <+: (purpose ++ "-").toList := by decide
    exact fun purpose word => hasStem_colorClass (hasStem_word (words purpose word))
  unfold fillClass
  split
  next => exact List.forall_mem_singleton.mpr (known "bg" (by decide) _)
  next =>
    split
    · refine List.forall_mem_append.mpr ⟨?_, ?_⟩
      · simp only [List.forall_mem_cons]
        exact ⟨hasStem_word (by decide), known "from" (by decide) _, known "to" (by decide) _, List.forall_mem_nil _⟩
      · split
        · exact List.forall_mem_singleton.mpr (known "via" (by decide) _)
        · exact List.forall_mem_nil _
    · exact List.forall_mem_nil _
  next => exact List.forall_mem_nil _
  next => exact List.forall_mem_nil _

theorem hasStem_fillClasses (fills : List Fill) : ∀ name ∈ fillClasses fills tokens, HasStem tokens fillStems name := by
  intro name member
  obtain ⟨fill, -, listed⟩ := List.mem_flatMap.mp member
  exact hasStem_fillClass fill name listed

theorem isSolid_fillClasses (fills : List Fill) (solid : KeepSolid tokens) : ∀ name ∈ fillClasses fills tokens, IsSolid name :=
  fun name member => (hasStem_fillClasses fills name member).solid solid

private theorem isSolid_spacing (pixels : Binary64) : IsSolid (spacing pixels) := by
  have steps : ∀ entry ∈ spacingScale, IsSolid entry.2 := by decide
  unfold spacing spacingStep
  split
  next step found => exact steps _ (List.mem_of_find?_eq_some found)
  next => exact (IsSolid.append (by decide) (isSolid_toString _)).append (by decide)

theorem hasStem_spacing {purpose : String} (word : HasStem tokens stems purpose) (pixels : Binary64) :
    HasStem tokens stems (purpose ++ spacing pixels) :=
  word.append fun _ => isSolid_spacing pixels

def paddingStems : List String := ["p-", "px-", "py-", "pt-", "pr-", "pb-", "pl-"]

private theorem hasStem_paddingClasses (padding : Padding) :
    ∀ name ∈ paddingClasses padding, HasStem tokens paddingStems name := by
  have side : ∀ word ∈ paddingStems, ∀ pixels, HasStem tokens paddingStems (word ++ spacing pixels) := by
    have words : ∀ word ∈ paddingStems, IsSolid word := by decide
    exact fun word listed => hasStem_spacing (hasStem_word ⟨words word listed, word, listed, List.prefix_rfl⟩)
  unfold paddingClasses
  split
  · exact List.forall_mem_nil _
  split
  · exact List.forall_mem_singleton.mpr (side "p-" (by decide) _)
  split
  · exact List.forall_mem_cons.mpr ⟨side "px-" (by decide) _, List.forall_mem_singleton.mpr (side "py-" (by decide) _)⟩
  · refine List.forall_mem_map.mpr fun entry listed => side entry.1 ?_ entry.2
    have known := List.mem_map_of_mem (f := Prod.fst) (List.mem_filter.mp listed).1
    exact (by decide : ["pt-", "pr-", "pb-", "pl-"] ⊆ paddingStems) known

theorem forall_mem_ite {α : Type} {p : Prop} [Decidable p] {P : α → Prop} {items : List α} (each : ∀ item ∈ items, P item) :
    ∀ item ∈ (if p then items else []), P item := by
  split
  · exact each
  · exact List.forall_mem_nil _

/-- The stems of a layout's classes apart from those that say how it flows. -/
def flexStems : List String := ["flex-wrap", "gap-", "items-", "justify-"] ++ paddingStems

private theorem mem_layoutClasses {layout : Layout} {name : String} (member : name ∈ layoutClasses layout) :
    name = "flex" ∨ (name = "flex-col" ∧ layout.direction = .vertical) ∨ HasStem tokens flexStems name := by
  have alignment : ∀ alignment, HasStem tokens flexStems (alignmentClass alignment) := by
    intro alignment
    exact hasStem_word (by cases alignment <;> decide)
  have justification : ∀ justification, HasStem tokens flexStems (justificationClass justification) := by
    intro justification
    exact hasStem_word (by cases justification <;> decide)
  unfold layoutClasses at member
  split at member
  · simp only [List.mem_append, List.mem_cons, List.not_mem_nil, or_false, List.mem_ite_nil_right] at member
    rcases member with ((((rfl | column) | wrap) | rfl | rfl) | gap) | padding
    · exact .inl rfl
    · exact .inr (.inl ⟨column.2, column.1⟩)
    · exact .inr (.inr (wrap.2 ▸ hasStem_word (by decide)))
    · exact .inr (.inr (alignment _))
    · exact .inr (.inr (justification _))
    · exact .inr (.inr (gap.2 ▸ hasStem_spacing (hasStem_word (by decide)) _))
    · exact .inr (.inr ((hasStem_paddingClasses layout.padding name padding).of_subset (List.subset_append_right _ _)))
  · cases member

/-- What a container's classes say about how it flows, apart from the stems of the others. -/
theorem mem_containerClasses {node : Node} {name : String} (member : name ∈ containerClasses node) :
    name = "flex" ∨ (name = "flex-col" ∧ (node.value.layout.direction = .vertical ∨ isStacked node = true)) ∨
      (name = "md:flex-row" ∧ isStacked node = true) ∨ HasStem tokens flexStems name := by
  have layout : name ∈ layoutClasses node.value.layout → name = "flex" ∨
      (name = "flex-col" ∧ (node.value.layout.direction = .vertical ∨ isStacked node = true)) ∨
      (name = "md:flex-row" ∧ isStacked node = true) ∨ HasStem tokens flexStems name := by
    intro member
    rcases mem_layoutClasses member with flex | ⟨column, vertical⟩ | begins
    · exact .inl flex
    · exact .inr (.inl ⟨column, .inl vertical⟩)
    · exact .inr (.inr (.inr begins))
  unfold containerClasses at member
  dsimp only at member
  split at member
  next stacked =>
    rcases List.mem_append.mp member with stack | kept
    · simp only [List.mem_cons, List.not_mem_nil, or_false] at stack
      rcases stack with flex | column | row
      · exact .inl flex
      · exact .inr (.inl ⟨column, .inr stacked⟩)
      · exact .inr (.inr (.inl ⟨row, stacked⟩))
    · exact layout (List.mem_filter.mp kept).1
  next => exact layout member

def containerStems : List String := ["flex", "flex-col", "md:flex-row"] ++ flexStems

theorem hasStem_containerClasses (node : Node) : ∀ name ∈ containerClasses node, HasStem tokens containerStems name := by
  intro name member
  rcases mem_containerClasses member with rfl | ⟨rfl, -⟩ | ⟨rfl, -⟩ | own
  · exact hasStem_word (by decide)
  · exact hasStem_word (by decide)
  · exact hasStem_word (by decide)
  · exact own.of_subset (List.subset_append_right _ _)

theorem isSolid_containerClasses (node : Node) : ∀ name ∈ containerClasses node, IsSolid name :=
  fun name member => (@hasStem_containerClasses none node name member).solid keepSolid_none

/-- The stems of how a layer looks, apart from its background and from how its text looks. -/
def lookStems : List String := ["w-", "h-", "min-w-", "max-w-", "border", "rounded", "shadow", "opacity-", "overflow-hidden",
  "xl:max-w-", "lg:max-w-", "sm:w-full", "md:w-"]

private theorem hasStem_dimensionClasses (dimensions : Dimensions) :
    ∀ name ∈ dimensionClasses dimensions, HasStem tokens lookStems name := by
  have size : ∀ axis ∈ ["w", "h"], ∀ size, ∀ name ∈ sizeClasses axis size, HasStem tokens lookStems name := by
    have words : ∀ axis ∈ ["w", "h"], ∀ word ∈ [axis ++ "-full", axis ++ "-fit"],
        IsSolid word ∧ ∃ stem ∈ lookStems, stem.toList <+: word.toList := by decide
    intro axis known size
    cases size with
    | fixed => exact List.forall_mem_nil _
    | auto => exact List.forall_mem_singleton.mpr (hasStem_word (words axis known _ (by simp)))
    | fill => exact List.forall_mem_singleton.mpr (hasStem_word (words axis known _ (by simp)))
  have bound : ∀ word, HasStem tokens lookStems (word ++ "-[") → ∀ value, ∀ name ∈ boundClasses word value,
      HasStem tokens lookStems name := by
    intro word stem value
    unfold boundClasses
    split
    · exact List.forall_mem_singleton.mpr (hasStem_pixels stem _)
    · exact List.forall_mem_nil _
  unfold dimensionClasses
  simp only [List.forall_mem_append]
  exact ⟨⟨⟨size "w" (by decide) _, size "h" (by decide) _⟩, bound "min-w" (hasStem_word (by decide)) _⟩,
    bound "max-w" (hasStem_word (by decide)) _⟩

private theorem hasStem_borderClasses (borders : List Border) :
    ∀ name ∈ borderClasses borders tokens, HasStem tokens lookStems name := by
  have style : ∀ style, ∀ name ∈ borderStyleClasses style, HasStem tokens lookStems name := by
    intro style name member
    exact hasStem_word (by cases style <;> revert name <;> decide)
  unfold borderClasses
  split
  · exact List.forall_mem_nil _
  · simp only [List.forall_mem_append]
    refine ⟨⟨⟨?_, forall_mem_ite ?_⟩, style _⟩, ?_⟩ <;> refine List.forall_mem_singleton.mpr ?_
    · exact hasStem_word (by decide)
    · exact hasStem_pixels (hasStem_word (by decide)) _
    · exact hasStem_colorClass (hasStem_word (by decide)) _

private theorem hasStem_uniformRadiusClass (radius : Binary64) : HasStem tokens lookStems (uniformRadiusClass radius) := by
  have words : ∀ entry ∈ radiusScale, IsSolid entry.2 ∧ ∃ stem ∈ lookStems, stem.toList <+: entry.2.toList := by decide
  have named : ∀ entry, radiusScale.foldl (nearerRadius radius) none = some entry → HasStem tokens lookStems entry.2 := by
    refine @List.foldlRecOn _ _ (fun best => ∀ entry, best = some entry → HasStem tokens lookStems entry.2) radiusScale
      (nearerRadius radius) none (fun _ absurd => nomatch absurd) fun best known candidate listed entry chosen => ?_
    have own : HasStem tokens lookStems candidate.2 := hasStem_word (words candidate listed)
    unfold nearerRadius at chosen
    grind
  have literal : HasStem tokens lookStems ("rounded-[" ++ quantity radius ++ "px]") := hasStem_pixels (hasStem_word (by decide)) _
  unfold uniformRadiusClass
  dsimp only
  split
  next distance name found =>
    split
    · exact named _ found
    · exact literal
  next => exact literal

private theorem hasStem_radiusClasses (radii : CornerRadii) : ∀ name ∈ radiusClasses radii, HasStem tokens lookStems name := by
  unfold radiusClasses
  split
  · split
    · exact List.forall_mem_nil _
    · exact List.forall_mem_singleton.mpr (hasStem_uniformRadiusClass _)
  · have words : ∀ corner ∈ ["tl", "tr", "br", "bl"], IsSolid ("rounded-" ++ corner ++ "-[") ∧
        ∃ stem ∈ lookStems, stem.toList <+: ("rounded-" ++ corner ++ "-[").toList := by decide
    refine List.forall_mem_map.mpr fun entry listed => ?_
    have known := List.mem_map_of_mem (f := Prod.fst) (List.mem_filter.mp listed).1
    exact hasStem_pixels (hasStem_word (words entry.1 known)) _

private theorem hasStem_shadowClass (shadow : Shadow) : HasStem tokens lookStems (shadowClass shadow) := by
  refine hasStem_word ?_
  unfold shadowClass
  dsimp only
  repeat' split
  all_goals decide

private theorem hasStem_maxWidthClasses (dimensions : Dimensions) :
    ∀ name ∈ maxWidthClasses dimensions, HasStem tokens lookStems name := by
  unfold maxWidthClasses
  split
  · split
    · exact List.forall_mem_singleton.mpr (hasStem_pixels (hasStem_word (by decide)) _)
    split
    · exact List.forall_mem_singleton.mpr (hasStem_pixels (hasStem_word (by decide)) _)
    · exact List.forall_mem_nil _
  · exact List.forall_mem_nil _

private theorem hasStem_fixedWidthClasses (dimensions : Dimensions) :
    ∀ name ∈ fixedWidthClasses dimensions, HasStem tokens lookStems name := by
  unfold fixedWidthClasses
  split
  · refine forall_mem_ite (List.forall_mem_append.mpr ⟨?_, forall_mem_ite ?_⟩) <;> refine List.forall_mem_singleton.mpr ?_
    · exact hasStem_word (by decide)
    · exact hasStem_pixels (hasStem_word (by decide)) _
  · exact List.forall_mem_nil _

/-- The stems of a text's classes apart from its colour and from sizes in pixels. -/
def textWordStems : List String := fontSizes.map (·.2) ++ ["font-", "text-center", "text-right", "text-justify", "uppercase",
  "lowercase", "capitalize", "underline", "line-through", "italic"]

private theorem hasStem_textWord {name : String} (listed : name ∈ textWordStems) : HasStem tokens textWordStems name := by
  have solid : ∀ word ∈ textWordStems, IsSolid word := by decide
  exact hasStem_word ⟨solid name listed, name, listed, List.prefix_rfl⟩

private theorem fontSizeClass_cases (size : Binary64) :
    fontSizeClass size ∈ textWordStems ∨ fontSizeClass size = "text-[" ++ quantity size ++ "px]" := by
  unfold fontSizeClass
  split
  next found => exact .inl (List.mem_append_left _ (List.mem_map_of_mem (f := Prod.snd) (List.mem_of_find?_eq_some found)))
  next => exact .inr rfl

private theorem hasStem_fontWeightClass (weight : UInt16) : HasStem tokens textWordStems (fontWeightClass weight) := by
  have known : ∀ entry ∈ fontWeights, IsSolid entry.2 ∧ "font-".toList <+: entry.2.toList := by decide
  unfold fontWeightClass
  split
  next found =>
    obtain ⟨solid, begins⟩ := known _ (List.mem_of_find?_eq_some found)
    exact hasStem_word ⟨solid, "font-", by decide, begins⟩
  next => exact ((hasStem_word (by decide)).append fun _ => isSolid_natToString _).append fun _ => by decide

theorem mem_textStyleClasses {style : TextStyle} {name : String} (member : name ∈ textStyleClasses style) :
    HasStem tokens textWordStems name ∨ ∃ pixels : Binary64, name = "text-[" ++ pixels.plain ++ "px]" := by
  have aligned : ∀ align, ∀ name ∈ (textAlignClass? align).toList, name ∈ textWordStems := by intro align; cases align <;> decide
  have changed : ∀ transform, ∀ name ∈ (textTransformClass? transform).toList, name ∈ textWordStems := by
    intro transform
    cases transform <;> decide
  have decorated : ∀ decoration, ∀ name ∈ (textDecorationClass? decoration).toList, name ∈ textWordStems := by
    intro decoration
    cases decoration <;> decide
  have italic : ∀ name ∈ (if style.italic then ["italic"] else []), name ∈ textWordStems := forall_mem_ite (by decide)
  simp only [textStyleClasses, List.append_assoc, List.cons_append, List.nil_append, List.mem_cons, List.mem_append] at member
  rcases member with sized | weighed | align | transform | decoration | slanted
  · rcases fontSizeClass_cases style.fontSize with known | literal
    · exact .inl (hasStem_textWord (sized ▸ known))
    · exact .inr ⟨_, sized.trans literal⟩
  · exact .inl (weighed ▸ hasStem_fontWeightClass _)
  · exact .inl (hasStem_textWord (aligned _ name align))
  · exact .inl (hasStem_textWord (changed _ name transform))
  · exact .inl (hasStem_textWord (decorated _ name decoration))
  · exact .inl (hasStem_textWord (italic name slanted))

theorem mem_foregroundClasses_iff {layer : Layer} {name : String} :
    name ∈ foregroundClasses layer tokens ↔ ∃ color, layer.fills.head? = some (.solid color) ∧ name = colorClass "text" color tokens := by
  rw [foregroundClasses]
  cases layer.fills.head? with
  | none => simp
  | some fill => cases fill <;> simp [Fill.solidColor?]

/-- The stems of all classes of texts. -/
def textStems : List String := ["text-", "font-", "uppercase", "lowercase", "capitalize", "underline", "line-through", "italic"]

theorem hasStem_textClasses (layer : Layer) : ∀ name ∈ textClasses layer tokens, HasStem tokens textStems name := by
  have shorter : ∀ stem ∈ textWordStems, ∃ other ∈ textStems, other.toList <+: stem.toList := by decide +kernel
  have style : ∀ style, ∀ name ∈ textStyleClasses style, HasStem tokens textStems name := by
    intro style name member
    rcases mem_textStyleClasses member with own | ⟨pixels, rfl⟩
    · exact own.mono shorter
    · exact hasStem_pixels (hasStem_word (by decide)) pixels
  unfold textClasses
  refine List.forall_mem_append.mpr ⟨?_, fun name member => ?_⟩
  · split
    · exact style _
    · exact List.forall_mem_nil _
  · obtain ⟨color, -, rfl⟩ := mem_foregroundClasses_iff.mp member
    exact hasStem_colorClass (hasStem_word (by decide)) color

/-! The stages together -/

/-- Where a class of a layer comes from. -/
theorem mem_nodeStages {node : Node} {name : String} (member : name ∈ (nodeStages node tokens).flatten) :
    name ∈ containerClasses node ∨ name ∈ backgroundClasses node.value tokens ∨ HasStem tokens lookStems name ∨
      (name = "md:flex-row" ∧ node.value.layout.isHorizontal = true) ∨
      (node.value.role = .text ∧ name ∈ textClasses node.value tokens) := by
  obtain ⟨stage, listed, inside⟩ := List.mem_flatten.mp member
  simp only [nodeStages, List.mem_cons, List.not_mem_nil, or_false] at listed
  rcases listed with rfl | rfl | rfl | rfl | rfl | rfl | rfl | rfl | rfl | rfl
  · exact .inl inside
  · exact .inr (.inr (.inl (hasStem_dimensionClasses _ name inside)))
  · exact .inr (.inl inside)
  · exact .inr (.inr (.inl (hasStem_borderClasses _ name inside)))
  · exact .inr (.inr (.inl (hasStem_radiusClasses _ name inside)))
  · obtain ⟨shadow, -, rfl⟩ := List.mem_map.mp inside
    exact .inr (.inr (.inl (hasStem_shadowClass shadow)))
  · refine .inr (.inr (.inl ?_))
    unfold opacityClasses at inside
    split at inside
    · exact List.mem_singleton.mp inside ▸ (hasStem_word (by decide)).append fun _ => isSolid_toString _
    · cases inside
  · refine .inr (.inr (.inl ?_))
    split at inside
    · exact List.mem_singleton.mp inside ▸ hasStem_word (by decide)
    · cases inside
  · rcases List.mem_append.mp inside with inside | fixed
    · rcases List.mem_append.mp inside with row | most
      · split at row
        next horizontal => exact .inr (.inr (.inr (.inl ⟨List.mem_singleton.mp row, horizontal⟩)))
        next => cases row
      · exact .inr (.inr (.inl (hasStem_maxWidthClasses _ name most)))
    · exact .inr (.inr (.inl (hasStem_fixedWidthClasses _ name fixed)))
  · split at inside
    next text => exact .inr (.inr (.inr (.inr ⟨text, inside⟩)))
    next => cases inside

end

end Classes

end Handoff
