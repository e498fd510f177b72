import Handoff.Proofs.ImportOrder
import Handoff.Proofs.LeadingImports
import Handoff.Proofs.PageSections

/-! No element is used without being imported. An element of a library stands in the markup
of a design only for a layer of its role, or as a part of a card, and a file imports all that
the roles of its layers need, each symbol once and in the order in which layers ask for it. -/

namespace Handoff
open Component Script Imports

namespace Markup

mutual

/-- The tags of the elements in markup, in the order in which they are printed. -/
def tags : Markup → List String
  | .text _ => []
  | .element tag _ children => tag :: allTags children

def allTags : List Markup → List String
  | [] => []
  | child :: rest => tags child ++ allTags rest

end

private theorem allTags_eq_flatMap (children : List Markup) : allTags children = children.flatMap tags := by
  induction children with
  | nil => rfl
  | cons child rest ih => rw [allTags, ih, List.flatMap_cons]

theorem mem_tags_element {tag own : String} {attributes : List Attribute} {children : List Markup} :
    tag ∈ tags (.element own attributes children) ↔ tag = own ∨ ∃ child ∈ children, tag ∈ child.tags := by
  rw [tags, allTags_eq_flatMap, List.mem_cons, List.mem_flatMap]

/-- Whether a tag is a component rather than an element of the page's own language. -/
def isCapital (tag : String) : Bool := tag.toList.head?.any Char.isUpper

end Markup

namespace Component
open Markup Classes

/-- A library whose elements are among the symbols that they need. -/
structure Library.NamesElements (library : Library) : Prop where
  wrappers : ∀ entry ∈ library.wrappers, isCapital entry.2.tag = true → entry.2.tag ∈ entry.2.symbols
  parts : ∀ parts, library.cardParts = some parts → ∀ entry ∈ library.wrappers, entry.1 = .card →
    ∀ part ∈ [parts.header, parts.title, parts.content, parts.footer], isCapital part.tag = true →
      part.tag ∈ entry.2.symbols

private theorem namesElements_library (target : Target) : target.renderer.library.NamesElements := by
  cases target with
  | react =>
    refine ⟨by decide, ?_⟩
    rintro _ ⟨⟩
    decide
  | vue =>
    refine ⟨by decide, ?_⟩
    rintro _ ⟨⟩
    decide
  | angular =>
    refine ⟨by decide, ?_⟩
    rintro _ ⟨⟩
    decide

private theorem Part.mem_tags_element {part : Part} {children : List Markup} {tag : String} :
    tag ∈ (part.element children).tags ↔ tag = part.tag ∨ ∃ child ∈ children, tag ∈ child.tags :=
  Markup.mem_tags_element

private theorem mem_tags_cardChildren {parts : CardParts} {card : Node} {children : List Markup} {child : Markup} {tag : String}
    (inside : child ∈ cardChildren parts card children) (member : tag ∈ child.tags) :
    (∃ part ∈ [parts.header, parts.title, parts.content, parts.footer], tag = part.tag) ∨
      ∃ child ∈ children, tag ∈ child.tags := by
  let plan := CardPlan.ofChildren card.children
  simp only [cardChildren, List.mem_append] at inside
  rcases inside with (fromHeader | fromContent) | fromFooter
  · obtain ⟨_, -, rfl⟩ := List.mem_map.mp fromHeader
    rw [Part.mem_tags_element] at member
    rcases member with own | ⟨title, ⟨⟩ | ⟨_, ⟨⟩⟩, member⟩
    · exact .inl ⟨parts.header, by simp, own⟩
    · rw [Part.mem_tags_element] at member
      rcases member with own | ⟨text, ⟨⟩ | ⟨_, ⟨⟩⟩, member⟩
      · exact .inl ⟨parts.title, by simp, own⟩
      · cases member
  · split at fromContent
    · cases fromContent
    · rw [List.mem_singleton] at fromContent
      subst fromContent
      rw [Part.mem_tags_element] at member
      rcases member with own | ⟨child, kept, member⟩
      · exact .inl ⟨parts.content, by simp, own⟩
      · exact .inr ⟨child, (plan.mem_of_slot children).1 kept, member⟩
  · obtain ⟨footer, kept, rfl⟩ := List.mem_map.mp fromFooter
    rw [Part.mem_tags_element] at member
    rcases member with own | ⟨child, ⟨⟩ | ⟨_, ⟨⟩⟩, member⟩
    · exact .inl ⟨parts.footer, by simp, own⟩
    · exact .inr ⟨footer, (plan.mem_of_slot children).2 (Option.mem_toList.mp kept), member⟩

private theorem ne_of_isCapital {tag other : String} (capital : isCapital tag = true) (small : isCapital other = false) :
    tag ≠ other := by
  rintro rfl
  simp [capital] at small

variable {library : Library} (named : library.NamesElements)
include named

private theorem mem_tags_wrapped {classAttribute classes tag : String} {wrapper : Wrapper} {node : Node} {children : List Markup}
    (found : library.wrapper? node.value.role = some wrapper)
    (member : tag ∈ (wrapped library wrapper classAttribute classes node children).tags) (capital : isCapital tag = true) :
    tag ∈ wrapper.symbols ∨ ∃ child ∈ children, tag ∈ child.tags := by
  have listed := library.mem_of_wrapper? found
  have own : tag = wrapper.tag → tag ∈ wrapper.symbols := fun same => same ▸ named.wrappers _ listed (same ▸ capital)
  unfold wrapped at member
  split at member
  next parts isCard partsFound =>
    rw [Wrapper.element, Markup.mem_tags_element] at member
    rcases member with same | ⟨child, inside, member⟩
    · exact .inl (own same)
    · refine (mem_tags_cardChildren inside member).imp_left ?_
      rintro ⟨part, known, same⟩
      exact same ▸ named.parts parts partsFound _ listed isCard part known (same ▸ capital)
  next =>
    rw [Wrapper.element, Markup.mem_tags_element] at member
    rcases member with same | ⟨child, ⟨⟩ | ⟨_, ⟨⟩⟩, member⟩
    · exact .inl (own same)
    · cases member
  next =>
    split at member
    · rw [Wrapper.element, Markup.mem_tags_element] at member
      exact member.imp_left own
    · rw [Markup.mem_tags_element] at member
      rcases member with same | ⟨child, ⟨⟩, -⟩
      exact .inl (own same)

/-- A component in the markup of a layer is imported for its role or comes from its children. -/
theorem mem_tags_elementOf {classAttribute classes tag : String} {node : Node} {children : List Markup}
    (member : tag ∈ (elementOf library classAttribute classes node children).tags) (capital : isCapital tag = true) :
    (∃ wrapper, library.wrapper? node.value.role = some wrapper ∧ tag ∈ wrapper.symbols) ∨
      ∃ child ∈ children, tag ∈ child.tags := by
  unfold elementOf at member
  dsimp only at member
  split at member
  next =>
    rw [Markup.mem_tags_element] at member
    rcases member with same | ⟨child, inside, member⟩
    · exact absurd same (ne_of_isCapital capital (by decide))
    · obtain ⟨text, -, rfl⟩ := List.mem_map.mp inside
      cases member
  next wrapper _ found =>
    rw [Wrapper.element, Markup.mem_tags_element] at member
    rcases member with same | ⟨child, ⟨⟩, -⟩
    exact .inl ⟨wrapper, found, same ▸ named.wrappers _ (library.mem_of_wrapper? found) (same ▸ capital)⟩
  next =>
    rw [Markup.mem_tags_element] at member
    rcases member with same | ⟨child, ⟨⟩, -⟩
    exact absurd same (ne_of_isCapital capital (by decide))
  next =>
    rw [Markup.mem_tags_element] at member
    rcases member with same | ⟨child, ⟨⟩, -⟩
    exact absurd same (ne_of_isCapital capital (by decide))
  next wrapper found _ _ _ =>
    exact (mem_tags_wrapped named found member capital).imp_left fun symbol => ⟨wrapper, found, symbol⟩
  next =>
    rw [Markup.mem_tags_element] at member
    exact .inr (member.resolve_left (ne_of_isCapital capital (by decide)))

/-- A component in the markup of a design is imported for the role of one of its layers. -/
theorem mem_tags_markupOf {classAttribute tag : String} {tokens : Option TokenMap} {node : Node}
    (member : tag ∈ (markupOf library classAttribute tokens node).tags) (capital : isCapital tag = true) :
    ∃ layer ∈ node.values, ∃ wrapper, library.wrapper? layer.role = some wrapper ∧ tag ∈ wrapper.symbols := by
  induction node using Tree.childInduction with
  | node layer children ih =>
    rw [markupOf, allMarkupOf_eq_map] at member
    rw [Tree.values_node]
    rcases mem_tags_elementOf named member capital with own | ⟨_, written, deeper⟩
    · exact ⟨layer, List.mem_cons_self, own⟩
    · obtain ⟨child, inside, rfl⟩ := List.mem_map.mp written
      obtain ⟨inner, below, needed⟩ := ih child inside deeper
      exact ⟨inner, List.mem_cons_of_mem _ (List.mem_flatMap.mpr ⟨child, inside, below⟩), needed⟩

end Component

/-- No library offers what a target imports before it. -/
theorem Target.base_apart (target : Target) : ∀ entry ∈ target.renderer.library.wrappers, ∀ symbol ∈ entry.2.symbols,
    ∀ statement ∈ target.baseStatements, symbol ∉ statement.bound := by
  cases target <;> decide

private theorem countP_of_nodup {entries : List (String × List String)} {symbol : String}
    (distinct : (entries.flatMap Prod.snd).Nodup) (member : symbol ∈ entries.flatMap Prod.snd) :
    entries.countP (fun entry => decide (symbol ∈ entry.2)) = 1 := by
  induction entries with
  | nil => cases member
  | cons entry entries ih =>
    rw [List.flatMap_cons] at distinct member
    obtain ⟨-, rest, apart⟩ := List.nodup_append.mp distinct
    by_cases here : symbol ∈ entry.2
    · have later : entries.countP (fun entry => decide (symbol ∈ entry.2)) = 0 := by
        rw [List.countP_eq_zero]
        intro other listed offered
        exact apart symbol here symbol (List.mem_flatMap.mpr ⟨other, listed, of_decide_eq_true offered⟩) rfl
      rw [List.countP_cons_of_pos (by simpa using here), later]
    · rw [List.countP_cons_of_neg (by simpa using here), ih rest ((List.mem_append.mp member).resolve_left here)]

namespace Script

variable (target : Target) (tokens : Option Classes.TokenMap) (node : Node) (name : String) {symbol : String}

private theorem countP_leadingImports (imported : symbol ∈ (target.renderer.imports node.withoutDecoration).symbols) :
    (leadingImports target (target.renderer.render tokens node name)).countP
      (fun statement => decide (symbol ∈ statement.bound)) = 1 := by
  have collected := Renderer.collected_imports (isLegible_library target) node.withoutDecoration
  obtain ⟨_, -, wrapper, found, offered⟩ := Renderer.mem_symbols_imports.mp imported
  have base : target.baseStatements.countP (fun statement => decide (symbol ∈ statement.bound)) = 0 := by
    rw [List.countP_eq_zero]
    intro statement listed bound
    exact target.base_apart _ (Library.mem_of_wrapper? found) symbol offered statement listed (of_decide_eq_true bound)
  rw [leadingImports_render, List.countP_append, base, List.countP_map, Nat.zero_add]
  exact countP_of_nodup collected.distinct imported

private theorem count_usedNames (imported : symbol ∈ (Angular.renderer.imports node.withoutDecoration).symbols) :
    (usedNames (Angular.renderer.render tokens node name)).count symbol = 1 := by
  have collected := Renderer.collected_imports (isLegible_library .angular) node.withoutDecoration
  obtain ⟨_, -, wrapper, found, offered⟩ := Renderer.mem_symbols_imports.mp imported
  have other : "CommonModule" ≠ symbol := by
    rintro rfl
    exact Target.angular.base_apart _ (Library.mem_of_wrapper? found) _ offered (.importNamed ["CommonModule"] "@angular/common")
      (by simp [Target.baseStatements, Angular.baseImports]) List.mem_cons_self
  have used : usedNames (Angular.renderer.render tokens node name) =
      "CommonModule" :: (Angular.renderer.imports node.withoutDecoration).symbols := Angular.usedNames_wrap collected name _
  rw [used, List.count_cons_of_ne other]
  exact List.count_eq_one_of_mem collected.distinct imported

end Script

/-- Whatever a design is and however it is named, its files import what they use. For a
proper name the imports at the beginning of a file are all there are. A renderer's imports
are what the layers that are left after pruning ask for, in their order. -/
theorem imports_complete (tokens : Option Classes.TokenMap) (node : Node) (name : String) :
    (∀ target : Target, ∀ tag ∈ (target.renderer.markup tokens node.withoutDecoration).tags, Markup.isCapital tag = true →
      (leadingImports target (target.renderer.render tokens node name)).countP
        (fun statement => decide (tag ∈ statement.bound)) = 1) ∧
    (∀ target : Target, Naming.IsPlain name →
      moduleStatements target (target.renderer.render tokens node name) =
        leadingImports target (target.renderer.render tokens node name) ++ (target.declares name).map .exportDeclared) ∧
    (∀ layer ∈ node.withoutDecoration.values, ∀ wrapper, Angular.library.wrapper? layer.role = some wrapper →
      ∀ symbol ∈ wrapper.symbols,
        (∃ names, .importNamed names wrapper.module ∈ leadingImports .angular (Angular.renderer.render tokens node name) ∧
          symbol ∈ names) ∧
        (usedNames (Angular.renderer.render tokens node name)).count symbol = 1) ∧
    ∀ renderer : Renderer,
      renderer.render tokens node name =
        renderer.wrap name (renderer.style.print (renderer.markup tokens node.withoutDecoration))
          (renderer.imports node.withoutDecoration) ∧
      (renderer.imports node.withoutDecoration).toList =
        grouped (node.withoutDecoration.values.flatMap fun layer => renderer.library.requests layer.role) := by
  refine ⟨?_, ?_, ?_, ?_⟩
  · intro target tag member capital
    have needed := mem_tags_markupOf (namesElements_library target) member capital
    exact countP_leadingImports target tokens node name (Renderer.mem_symbols_imports.mpr needed)
  · intro target plain
    rw [moduleStatements_render target plain, leadingImports_render]
  · intro layer inside wrapper found symbol offered
    have asked : (Angular.renderer.imports node.withoutDecoration).Offers wrapper.module symbol :=
      Renderer.offers_imports.mpr ⟨layer, inside, wrapper, found, rfl, offered⟩
    have imported := Imports.mem_symbols.mpr ⟨wrapper.module, asked⟩
    obtain ⟨names, listed, member⟩ := asked
    refine ⟨⟨names, ?_, member⟩, count_usedNames tokens node name imported⟩
    have lines := leadingImports_render name .angular tokens node
    exact lines ▸ List.mem_append_right _ (List.mem_map.mpr ⟨_, listed, rfl⟩)
  · intro renderer
    exact ⟨rfl, renderer.toList_imports node.withoutDecoration⟩

/-- A card whose header is a button. -/
def titledCard : Node := .node (.bare "1:1" "Pay" .card) [.node (.bare "2:1" "Header" .button) []]

theorem imports_complete_sample :
    ("CardTitle" ∈ (Target.react.renderer.markup none titledCard.withoutDecoration).tags ∧
      Markup.isCapital "CardTitle" = true ∧
      (leadingImports .react (Target.react.renderer.render none titledCard "Pay")).countP
        (fun statement => decide ("CardTitle" ∈ statement.bound)) = 1) ∧
    (Naming.IsPlain "Pay" ∧
      moduleStatements .react (Target.react.renderer.render none titledCard "Pay") =
        leadingImports .react (Target.react.renderer.render none titledCard "Pay") ++
          (Target.react.declares "Pay").map .exportDeclared) ∧
    ∃ layer ∈ titledCard.withoutDecoration.values, ∃ wrapper, Angular.library.wrapper? layer.role = some wrapper ∧
      "HlmButtonDirective" ∈ wrapper.symbols ∧
      (usedNames (Angular.renderer.render none titledCard "Pay")).count "HlmButtonDirective" = 1 := by
  obtain ⟨elements, modules, used, -⟩ := imports_complete none titledCard "Pay"
  have shown : "CardTitle" ∈ (Target.react.renderer.markup none titledCard.withoutDecoration).tags := by decide +kernel
  have capital : Markup.isCapital "CardTitle" = true := by decide
  have plain : Naming.IsPlain "Pay" := by decide +kernel
  have inside : Layer.bare "2:1" "Header" .button ∈ titledCard.withoutDecoration.values := by decide +kernel
  have offered : ∃ wrapper, Angular.library.wrapper? .button = some wrapper ∧ "HlmButtonDirective" ∈ wrapper.symbols :=
    ⟨_, rfl, List.mem_cons_self⟩
  obtain ⟨wrapper, found, symbol⟩ := offered
  have once := (used _ inside wrapper found _ symbol).2
  exact ⟨⟨shown, capital, elements .react _ shown capital⟩, ⟨plain, modules .react plain⟩, _, inside, wrapper, found,
    symbol, once⟩

end Handoff
