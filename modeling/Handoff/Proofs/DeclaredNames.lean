import Handoff.Proofs.ComponentModules
import Handoff.Proofs.PageSections
import Handoff.Site.Plan

/-! The names that a component for React declares at the top of its file. Its own name and
that of its properties meet the names that it imports, and nothing keeps them apart: a
section called like an element that it shows declares that name a second time. -/

namespace Handoff.Site
open Naming Script

variable {manifest : Manifest} {design : Node} {items : List Section}

/-- No element of the library for React has the name of the library itself or of properties. -/
theorem reserved_react : ∀ entry ∈ Component.React.library.wrappers, ∀ symbol ∈ entry.2.symbols,
    symbol ≠ "React" ∧ ∀ name, symbol ≠ name ++ "Props" := by
  have ends : ∀ entry ∈ Component.React.library.wrappers, ∀ symbol ∈ entry.2.symbols,
      symbol ≠ "React" ∧ "Props".toList.isSuffixOf symbol.toList = false := by
    decide +kernel
  intro entry inside symbol offered
  refine ⟨(ends entry inside symbol offered).1, ?_⟩
  rintro name rfl
  have suffix := (ends entry inside _ offered).2
  have ending : "Props".toList <:+ (name ++ "Props").toList := ⟨name.toList, String.toList_append.symm⟩
  rw [List.isSuffixOf_iff_suffix.mpr ending] at suffix
  cases suffix

private theorem reserved_imports {node : Node} {symbol : String}
    (imported : symbol ∈ (Component.React.renderer.imports node).symbols) :
    symbol ≠ "React" ∧ ∀ name, symbol ≠ name ++ "Props" := by
  obtain ⟨_, -, wrapper, wrapped, offered⟩ := Component.Renderer.mem_symbols_imports.mp imported
  exact reserved_react _ (Component.Library.mem_of_wrapper? wrapped) symbol offered

private theorem props_ne_react (name : String) : name ++ "Props" ≠ "React" := by
  intro same
  have last := congrArg (·.toList.getLast?) same
  simp at last

/-- Of the names that a component declares, only its own can meet one that was there before. -/
theorem nodup_declared_iff (node : Node) (name : String) :
    ("React" :: ((Component.React.renderer.imports node).symbols ++ [name ++ "Props", name])).Nodup ↔
      name ≠ "React" ∧ name ∉ (Component.React.renderer.imports node).symbols := by
  have distinct := (Component.Renderer.collected_imports (Component.isLegible_library .react) node).distinct
  rw [List.nodup_cons, List.nodup_append]
  constructor
  · rintro ⟨library, -, -, apart⟩
    exact ⟨fun same => library (by simp [same]), fun member => apart _ member name (by simp) rfl⟩
  · rintro ⟨other, fresh⟩
    refine ⟨?_, distinct, by simp, ?_⟩
    · simp only [List.mem_append, List.mem_cons, List.not_mem_nil, or_false, not_or]
      exact ⟨fun member => (reserved_imports member).1 rfl, (props_ne_react name).symm, other.symm⟩
    · intro symbol member declared listed same
      simp only [List.mem_cons, List.not_mem_nil, or_false] at listed
      rcases listed with rfl | rfl
      · exact (reserved_imports member).2 _ same
      · exact fresh (same ▸ member)

/-- No name is declared twice at the top of a component for React, unless the section is
called like something that the file imports: the library of components itself, or an
element for one of the layers that the section shows. -/
theorem nodup_boundNames_iff (accepted : manifest.IsAccepted) (found : sections manifest design = .ok items)
    (root : Path) {item : Section} (listed : item ∈ items) :
    (boundNames .react (componentFile manifest root .react item).content).Nodup ↔
      item.name ≠ "React" ∧ ∀ layer ∈ item.node.withoutDecoration.values, ∀ wrapper,
        Component.React.library.wrapper? layer.role = some wrapper → item.name ∉ wrapper.symbols := by
  obtain ⟨-, plain⟩ := names_of_sections accepted found
  have bound : boundNames .react (componentFile manifest root .react item).content =
      "React" :: ((Component.React.renderer.imports item.node.withoutDecoration).symbols ++ [item.name ++ "Props", item.name]) :=
    boundNames_render .react (plain item listed) _ _
  rw [bound, nodup_declared_iff, Component.Renderer.mem_symbols_imports]
  push Not
  rfl

theorem nodup_boundNames_sample :
    let manifest := Manifest.brief [.react] []
    let design := pageOf [.node (.bare "1:1" "Go" .button) []]
    let item : Section := ⟨"Go", .node (.bare "1:1" "Go" .button) [], .none⟩
    (manifest.IsAccepted ∧ sections manifest design = .ok [item] ∧ item ∈ [item]) ∧
      ((boundNames .react (componentFile manifest .current .react item).content).Nodup ↔
        item.name ≠ "React" ∧ ∀ layer ∈ item.node.withoutDecoration.values, ∀ wrapper,
          Component.React.library.wrapper? layer.role = some wrapper → item.name ∉ wrapper.symbols) := by
  intro manifest design item
  have accepted : manifest.IsAccepted := by decide +kernel
  have found : sections manifest design = .ok [item] := by decide +kernel
  have listed : item ∈ [item] := List.mem_singleton_self item
  exact ⟨⟨accepted, found, listed⟩, nodup_boundNames_iff accepted found .current listed⟩

/-- A button called by its role is imported and declared under one name. -/
theorem boundNames_button :
    let manifest := Manifest.brief [.react] []
    let design := pageOf [.node (.bare "1:1" "Button" .button) []]
    ∃ item, manifest.IsAccepted ∧ sections manifest design = .ok [item] ∧
      boundNames .react (componentFile manifest .current .react item).content = ["React", "Button", "ButtonProps", "Button"] ∧
      ¬ (boundNames .react (componentFile manifest .current .react item).content).Nodup := by
  intro manifest design
  let item : Section := ⟨"Button", .node (.bare "1:1" "Button" .button) [], .none⟩
  have plain : IsPlain item.name := by decide +kernel
  have bound : boundNames .react (componentFile manifest .current .react item).content =
      ["React", "Button", "ButtonProps", "Button"] := by
    refine (boundNames_render .react plain _ _).trans ?_
    decide +kernel
  refine ⟨item, by decide +kernel, by decide +kernel, bound, ?_⟩
  rw [bound]
  decide

end Handoff.Site
