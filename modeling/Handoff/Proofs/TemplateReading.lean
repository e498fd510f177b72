import Handoff.Proofs.LoweredMarkup

/-! Templates are read as the markup they were printed from, for every target and for plain
pages. Design data cannot add a tag, close one, or open an expression of a template. -/

namespace Handoff
open Markup Component Classes

private theorem Page.legible_plainElement (layer : Layer) (classes : String) {children : List Markup}
    (inside : ∀ child ∈ children, Markup.Legible child) : (plainElement layer classes children).Legible := by
  have styling := named_classAttribute (by decide : IsName "class") classes
  have heading : IsName (headingTag layer.textStyle) := by
    unfold headingTag
    repeat' split
    all_goals decide
  have sectioning : IsName (sectionTag layer.role) := by cases layer.role <;> decide
  unfold plainElement
  dsimp only
  split
  · exact legible_textElement heading styling layer
  · exact .block (by decide) (named_append styling (named_pictureAttributes layer)) (by simp)
  · exact .block (by decide) styling (by simp)
  · exact .block sectioning styling inside

private theorem Page.allPlainMarkup_eq_map (children : List Node) : allPlainMarkup children = children.map plainMarkup := by
  induction children with
  | nil => rfl
  | cons child rest ih => rw [allPlainMarkup, ih, List.map_cons]

private theorem Page.legible_plainMarkup (node : Node) : (plainMarkup node).Legible := by
  induction node using Tree.childInduction with
  | node layer children ih =>
    rw [plainMarkup]
    refine legible_plainElement layer _ ?_
    intro child member
    rw [allPlainMarkup_eq_map] at member
    obtain ⟨inner, inside, rfl⟩ := List.mem_map.mp member
    exact ih inner inside

namespace Markup

theorem decodable_textEntities : Decodable Markup.textEntities := by
  refine ⟨rfl, ?_⟩
  intro entry member rest
  simp only [Markup.textEntities, List.mem_cons, List.not_mem_nil, or_false] at member
  rcases member with rfl | rfl | rfl | rfl | rfl <;> rfl

/-- A target may write more characters as entities than the others. -/
theorem Decodable.concat {table : Text.EscapeTable} (decodable : Decodable table) {added : Char × String}
    (entity : ∀ rest, decodeAfter none (added.2.toList ++ rest) = (decodeAfter none rest).map (added.1 :: ·)) :
    Decodable (table ++ [added]) := by
  refine ⟨?_, ?_⟩
  · rw [List.find?_append, Option.isSome_or, decodable.ampersand, Bool.true_or]
  · intro entry member rest
    rcases List.mem_append.mp member with listed | last
    · exact decodable.entity entry listed rest
    · rw [List.mem_singleton.mp last, entity]

/-- What a style needs for its output to be read back without expressions in it. -/
structure Style.Sound (style : Style) : Prop where
  decodable : Decodable style.textEntities
  opening : Avoids style.textEntities '<'
  closing : Avoids style.textEntities '>'
  openBrace : Foreign style '\x7b'
  closeBrace : Foreign style '\x7d'

/-- Printed text that is read as the markup it was printed from, with braces inside
attribute values only. -/
structure ReadsAs (printed : String) (markup : Markup) : Prop where
  read : Markup.read printed = some markup.withoutEmptyText
  openBrace : '\x7b' ∉ outsideValues .content printed.toList
  closeBrace : '\x7d' ∉ outsideValues .content printed.toList

theorem Style.Sound.readsAs {style : Style} (sound : style.Sound) {markup : Markup} (legible : Markup.Legible markup) :
    ReadsAs (style.print markup) markup where
  read := read_print sound.decodable sound.opening sound.closing legible
  openBrace := sound.openBrace.not_mem_outsideValues_print sound.opening legible
  closeBrace := sound.closeBrace.not_mem_outsideValues_print sound.opening legible

end Markup

private theorem Page.sound_plainStyle (level : Nat) : (plainStyle level).Sound where
  decodable := decodable_textEntities
  opening := (by decide : Avoids Markup.textEntities '<')
  closing := (by decide : Avoids Markup.textEntities '>')
  openBrace := ⟨by decide, by decide, (by decide : Avoids Markup.textEntities '\x7b')⟩
  closeBrace := ⟨by decide, by decide, (by decide : Avoids Markup.textEntities '\x7d')⟩

theorem Target.sound_style (target : Target) : target.renderer.style.Sound := by
  cases target with
  | react =>
    exact ⟨decodable_textEntities.concat fun _ => rfl, by decide, by decide,
      ⟨by decide, by decide, by decide⟩, ⟨by decide, by decide, by decide⟩⟩
  | vue =>
    exact ⟨decodable_textEntities, by decide, by decide,
      ⟨by decide, by decide, by decide⟩, ⟨by decide, by decide, by decide⟩⟩
  | angular =>
    exact ⟨decodable_textEntities.concat fun _ => rfl, by decide, by decide,
      ⟨by decide, by decide, by decide⟩, ⟨by decide, by decide, by decide⟩⟩

theorem Target.legible_markup (target : Target) (tokens : Option TokenMap) (node : Node) :
    (target.renderer.markup tokens node).Legible := by
  have named : IsName target.renderer.style.classAttribute := by cases target <;> decide
  exact legible_markupOf (legible_library target) named tokens node

/-- Whatever a design says, each target's template and the plain page are read as exactly
the markup of the design, and only attribute values hold characters that open
expressions: braces, and for Angular the at sign that opens a block. -/
theorem readsAs_templates (tokens : Option TokenMap) (node : Node) :
    (∀ target : Target,
      ReadsAs (target.renderer.style.print (target.renderer.markup tokens node.withoutDecoration))
        (target.renderer.markup tokens node.withoutDecoration)) ∧
    '@' ∉ outsideValues .content
      (Target.angular.renderer.style.print (Target.angular.renderer.markup tokens node.withoutDecoration)).toList ∧
    ReadsAs (Page.plainContent node) (Page.plainMarkup node.withoutDecoration) := by
  refine ⟨?_, ?_, ?_⟩
  · intro target
    exact target.sound_style.readsAs (target.legible_markup tokens node.withoutDecoration)
  · have foreign : Foreign Target.angular.renderer.style '@' := ⟨by decide, by decide, by decide⟩
    exact foreign.not_mem_outsideValues_print Target.angular.sound_style.opening
      (Target.angular.legible_markup tokens node.withoutDecoration)
  · exact (Page.sound_plainStyle Page.contentLevel).readsAs (Page.legible_plainMarkup node.withoutDecoration)

end Handoff
