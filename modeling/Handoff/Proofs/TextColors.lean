import Handoff.Proofs.ListedClasses

/-! The colours of texts. A text has no background, and it has the colour of its first paint, if
that is a plain one. Plain paint behind another paint does not count. -/

namespace Handoff.Classes
open Binary64

/-- The stems of a text's colour: a variable, digits, and the scales of the palette. -/
def colorStems : List String := ["text-[var(", "text-[#", "text-white", "text-black"] ++ hues.map ("text-" ++ ·)

theorem isPrefix_colorClass {color : Color} {tokens : Option TokenMap} {first rest : String} (same : colorName color tokens = first ++ rest) :
    ("text-" ++ first).toList <+: (colorClass "text" color tokens).toList := by
  have hyphen : "text" ++ "-" = "text-" := rfl
  rw [colorClass, same, hyphen, ← String.append_assoc, String.append_assoc, @String.toList_append ("text-" ++ first)]
  exact List.prefix_append _ _

private theorem exists_stem_colorClass (color : Color) (tokens : Option TokenMap) :
    ∃ stem ∈ colorStems, stem.toList <+: (colorClass "text" color tokens).toList := by
  rcases colorName_cases color tokens with ⟨name, -, same⟩ | ⟨entry, listed, same⟩ | same
  · exact ⟨"text-" ++ "[var(", by decide, isPrefix_colorClass (same.trans String.append_assoc)⟩
  · rcases name_cases listed with plain | ⟨hue, known, shade, -, scaled⟩
    · have stem := (by decide : ∀ name ∈ ["white", "black"], "text-" ++ name ∈ colorStems) _ plain
      exact ⟨_, stem, isPrefix_colorClass (same.trans String.append_empty.symm)⟩
    · exact ⟨_, List.mem_append_right _ (List.mem_map_of_mem known), isPrefix_colorClass (same.trans scaled)⟩
  · exact ⟨"text-" ++ "[#", by decide, isPrefix_colorClass (same.trans String.append_assoc)⟩

/-- The stems of a text's classes apart from those that say how its text looks. -/
def plainStems : List String := containerStems ++ lookStems

/-! Backgrounds and colours of texts begin as no other class of a text does. -/

theorem apart_plainStems : Apart plainStems ("text-" :: fillStems) := by decide

private theorem apart_textStems : Apart textStems fillStems := by decide

private theorem apart_textWordStems : Apart textWordStems colorStems := by decide

/-- What sizes in pixels are written with. -/
def isSizeCharacter (c : Char) : Bool := isNumeral c || "text-[px]".toList.contains c

private theorem isSizeCharacter_pixels (pixels : Binary64) :
    ∀ c ∈ ("text-[" ++ pixels.plain ++ "px]").toList, isSizeCharacter c = true := by
  simp only [String.toList_append, List.forall_mem_append]
  exact ⟨⟨by decide, fun c member => Bool.or_eq_true_iff.mpr (.inl (isNumeral_plain pixels c member))⟩, by decide⟩

/-- No size of a text begins like a colour. -/
theorem not_isPrefix_pixels (pixels : Binary64) : ∀ stem ∈ colorStems, ¬stem.toList <+: ("text-[" ++ pixels.plain ++ "px]").toList := by
  -- A size opens a bracket as a variable and digits do, so that a stem alone does not tell it from them.
  have strange : (colorStems.all fun stem => stem.toList.any fun c => !isSizeCharacter c) = true := by decide
  intro stem listed first
  obtain ⟨c, inside, other⟩ := List.any_eq_true.mp (List.all_eq_true.mp strange stem listed)
  rw [isSizeCharacter_pixels pixels c (first.subset inside)] at other
  cases other

private theorem colorClass_not_mem_textStyleClasses (color : Color) (tokens : Option TokenMap) (style : TextStyle) :
    colorClass "text" color tokens ∉ textStyleClasses style := by
  intro member
  obtain ⟨stem, listed, first⟩ := exists_stem_colorClass color tokens
  rcases @mem_textStyleClasses tokens style _ member with own | ⟨pixels, same⟩
  · exact own.not_isPrefix apart_textWordStems stem listed first
  · exact not_isPrefix_pixels pixels stem listed (same ▸ first)

section

variable {node : Node} {tokens : Option TokenMap} {name : String}

theorem mem_textStages (text : node.value.role = .text) (member : name ∈ (nodeClasses node tokens).toList) :
    HasStem tokens plainStems name ∨ name ∈ textClasses node.value tokens := by
  rcases mem_nodeStages (mem_nodeClasses_iff.mp member) with container | background | look | ⟨rfl, -⟩ | ⟨-, typed⟩
  · exact .inl ((hasStem_containerClasses node name container).of_subset (List.subset_append_left _ _))
  · rw [backgroundClasses, if_pos (.inl text)] at background
    cases background
  · exact .inl (look.of_subset (List.subset_append_right _ _))
  · exact .inl (hasStem_word (by decide))
  · exact .inr typed

private theorem fillClass_not_mem (text : node.value.role = .text) (fill : Fill) (painted : name ∈ fillClass tokens fill) :
    name ∉ (nodeClasses node tokens).toList := by
  obtain ⟨stem, listed, first⟩ := (hasStem_fillClass fill name painted).begins
  intro member
  rcases mem_textStages text member with own | inside
  · exact own.not_isPrefix apart_plainStems stem (List.mem_cons_of_mem _ listed) first
  · exact (hasStem_textClasses node.value name inside).not_isPrefix apart_textStems stem listed first

/-- The only colour of a text is that of a plain first paint. -/
theorem colorClass_mem_iff (text : node.value.role = .text) (color : Color) :
    colorClass "text" color tokens ∈ (nodeClasses node tokens).toList ↔
      ∃ first, node.value.fills.head? = some (.solid first) ∧ colorClass "text" color tokens = colorClass "text" first tokens := by
  rw [← mem_foregroundClasses_iff]
  constructor
  · intro member
    have colored : "text-".toList <+: (colorClass "text" color tokens).toList := @isPrefix_colorClass color tokens "" _ String.empty_append.symm
    rcases mem_textStages text member with own | inside
    · exact absurd colored (own.not_isPrefix apart_plainStems "text-" List.mem_cons_self)
    · refine (List.mem_append.mp inside).resolve_left fun styled => ?_
      split at styled
      · exact colorClass_not_mem_textStyleClasses color tokens _ styled
      · cases styled
  · intro foreground
    refine mem_nodeClasses (textClasses node.value tokens) ?_ (List.mem_append_right _ foreground)
    simp [nodeStages, text]

end

/-- The colour of a text's first plain paint, at whatever place, is a class, and without any
there is no such class. -/
def ShowsFirstColor (fills : List Fill) (tokens : Option TokenMap) (classes : ClassList) : Prop :=
  match fills.findSome? Fill.solidColor? with
  | some color => colorClass "text" color tokens ∈ classes.toList
  | none => ∀ color, colorClass "text" color tokens ∉ classes.toList

private theorem findSome?_of_head? {fills : List Fill} {first : Color} (leads : fills.head? = some (.solid first)) :
    fills.findSome? Fill.solidColor? = some first := by
  obtain ⟨rest, rfl⟩ := List.head?_eq_some_iff.mp leads
  rfl

/-- No paint gives a text a background, and the first plain paint colours a text exactly when
no other paint is before it. -/
theorem text_colors {node : Node} (text : node.value.role = .text) (tokens : Option TokenMap) :
    (∀ fill, ∀ name ∈ fillClass tokens fill, name ∉ (nodeClasses node tokens).toList) ∧
      (∀ color, colorClass "text" color tokens ∈ (nodeClasses node tokens).toList ↔
        ∃ first, node.value.fills.head? = some (.solid first) ∧ colorClass "text" color tokens = colorClass "text" first tokens) ∧
      (ShowsFirstColor node.value.fills tokens (nodeClasses node tokens) ↔
        (∃ first, node.value.fills.head? = some (.solid first)) ∨ ∀ color, .solid color ∉ node.value.fills) := by
  refine ⟨fun fill name => fillClass_not_mem text fill, colorClass_mem_iff text, ?_⟩
  unfold ShowsFirstColor
  split
  next color found =>
    obtain ⟨fill, listed, solid⟩ := List.exists_of_findSome?_eq_some found
    have some : ¬∀ color, .solid color ∉ node.value.fills := by
      cases fill with
      | solid own => exact fun none => none own listed
      | linear | radial | image => cases solid
    rw [or_iff_left some, colorClass_mem_iff text]
    constructor
    · rintro ⟨first, leads, -⟩
      exact ⟨first, leads⟩
    · rintro ⟨first, leads⟩
      cases found.symm.trans (findSome?_of_head? leads)
      exact ⟨color, leads, rfl⟩
  next found =>
    have none : ∀ color, .solid color ∉ node.value.fills := fun color listed =>
      nomatch List.findSome?_eq_none_iff.mp found _ listed
    refine iff_of_true (fun color member => ?_) (.inr none)
    obtain ⟨first, leads, -⟩ := (colorClass_mem_iff text color).mp member
    exact none first (List.mem_of_mem_head? leads)

def paintedTitle (fills : List Fill) : Node := .node { Layer.bare "1:1" "Title" .text with fills } []

def ink : Color := .rgb 0x11 0x18 0x27

def inkTokens : Option TokenMap := some (.ofList [("111827", "ink")])

theorem text_colors_ink :
    let node := paintedTitle [.solid ink, .image none]
    node.value.role = .text ∧ ShowsFirstColor node.value.fills inkTokens (nodeClasses node inkTokens) := by
  intro node
  have text : node.value.role = .text := rfl
  exact ⟨text, (text_colors text inkTokens).2.2.mpr (.inl ⟨ink, rfl⟩)⟩

/-- Behind a picture the first plain paint of a text gives it no colour. -/
theorem text_colors_covered :
    let node := paintedTitle [.image none, .solid ink]
    node.value.role = .text ∧ node.value.fills.findSome? Fill.solidColor? = some ink ∧
      (nodeClasses node inkTokens).toList = ["w-fit", "h-fit"] ∧
      ¬ShowsFirstColor node.value.fills inkTokens (nodeClasses node inkTokens) := by
  intro node
  refine ⟨rfl, rfl, by decide +kernel, fun shows => ?_⟩
  obtain ⟨first, leads, -⟩ := (colorClass_mem_iff rfl ink).mp shows
  cases leads

end Handoff.Classes
