import Handoff.Component.Targets
import Handoff.Proofs.LoweredMarkup
import Handoff.Proofs.NameCharacters
import Handoff.Proofs.OrderedMaps

/-! What a component imports. Symbols are collected by module: a module is listed once, with
at least one symbol, and the symbols are exactly those of the wrappers for the roles that
occur. No library offers a symbol from two modules, so none is imported twice. -/

namespace Handoff
open Naming

namespace Imports

/-- A symbol is imported from a module. -/
def Offers (imports : Imports) (module symbol : String) : Prop :=
  ∃ symbols, (module, symbols) ∈ imports.toList ∧ symbol ∈ symbols

/-- No module is listed without symbols, or with a symbol twice. -/
def IsTidy (imports : Imports) : Prop := ∀ entry ∈ imports.toList, entry.2 ≠ [] ∧ entry.2.Nodup

variable {imports : Imports} {module symbol : String}

private theorem not_offers_empty : ¬ empty.Offers module symbol := fun ⟨_, member, _⟩ => List.not_mem_nil member

private theorem isTidy_empty : empty.IsTidy := fun _ member => absurd member List.not_mem_nil

theorem known_getD : symbol ∈ (imports.modules.get? module).getD [] ↔ imports.Offers module symbol := by
  constructor
  · intro member
    cases found : imports.modules.get? module with
    | none => simp [found] at member
    | some symbols =>
      rw [found, Option.getD_some] at member
      exact ⟨symbols, OrderedMap.get?_eq_some_iff.mp found, member⟩
  · rintro ⟨symbols, listed, member⟩
    rw [OrderedMap.get?_eq_some_iff.mpr listed, Option.getD_some]
    exact member

private theorem mem_add {entry : String × List String} (member : entry ∈ (imports.add module symbol).toList) :
    entry ∈ imports.toList ∨
      ¬ imports.Offers module symbol ∧ entry = (module, (imports.modules.get? module).getD [] ++ [symbol]) := by
  unfold add at member
  dsimp only at member
  split at member
  · exact .inl member
  next fresh =>
    rcases (OrderedMap.mem_put_iff imports.modules.distinct).mp member with stored | ⟨old, -⟩
    · exact .inr ⟨fun known => fresh (known_getD.mpr known), stored⟩
    · exact .inl old

private theorem offers_add {origin name : String} :
    (imports.add module symbol).Offers origin name ↔ imports.Offers origin name ∨ origin = module ∧ name = symbol := by
  by_cases known : symbol ∈ (imports.modules.get? module).getD []
  · have unchanged : imports.add module symbol = imports := by rw [add, if_pos known]
    rw [unchanged]
    refine ⟨.inl, ?_⟩
    rintro (offered | ⟨rfl, rfl⟩)
    · exact offered
    · exact known_getD.mp known
  · have entries : ∀ entry, entry ∈ (imports.add module symbol).toList ↔
        entry = (module, (imports.modules.get? module).getD [] ++ [symbol]) ∨
          entry ∈ imports.toList ∧ entry.1 ≠ module := by
      intro entry
      rw [add, if_neg known]
      exact OrderedMap.mem_put_iff imports.modules.distinct
    constructor
    · rintro ⟨symbols, listed, member⟩
      rcases (entries _).mp listed with stored | ⟨old, -⟩
      · obtain ⟨rfl, rfl⟩ := Prod.mk.inj stored
        rcases List.mem_append.mp member with before | last
        · exact .inl (known_getD.mp before)
        · exact .inr ⟨rfl, List.mem_singleton.mp last⟩
      · exact .inl ⟨symbols, old, member⟩
    · intro either
      by_cases same : origin = module
      · refine ⟨_, (entries _).mpr (.inl (by rw [same])), ?_⟩
        rcases either with offered | ⟨-, rfl⟩
        · exact List.mem_append_left _ (known_getD.mpr (same ▸ offered))
        · simp
      · obtain ⟨symbols, listed, member⟩ := either.resolve_right fun added => same added.1
        exact ⟨symbols, (entries _).mpr (.inr ⟨listed, same⟩), member⟩

private theorem IsTidy.add (tidy : imports.IsTidy) (module symbol : String) : (imports.add module symbol).IsTidy := by
  intro entry member
  rcases mem_add member with old | ⟨fresh, rfl⟩
  · exact tidy entry old
  · refine ⟨by simp, List.nodup_append.mpr ⟨?_, List.nodup_singleton _, ?_⟩⟩
    · cases found : imports.modules.get? module with
      | none => exact List.nodup_nil
      | some symbols => exact (tidy _ (OrderedMap.get?_eq_some_iff.mp found)).2
    · intro known before last same other
      rw [List.mem_singleton] at same
      exact fresh (known_getD.mp (same ▸ other ▸ before))

private theorem offers_addAll {symbols : List String} {origin name : String} :
    (imports.addAll module symbols).Offers origin name ↔ imports.Offers origin name ∨ origin = module ∧ name ∈ symbols := by
  induction symbols generalizing imports with
  | nil => simp [addAll]
  | cons symbol symbols ih =>
    rw [addAll, List.foldl_cons, ← addAll, ih, offers_add, List.mem_cons, or_assoc, ← and_or_left]

private theorem IsTidy.addAll (tidy : imports.IsTidy) (module : String) (symbols : List String) :
    (imports.addAll module symbols).IsTidy := by
  induction symbols generalizing imports with
  | nil => exact tidy
  | cons symbol symbols ih => exact ih (tidy.add module symbol)

theorem mem_symbols : symbol ∈ imports.symbols ↔ ∃ module, imports.Offers module symbol := by
  simp only [symbols, List.mem_flatMap, Offers]
  constructor
  · rintro ⟨⟨module, symbols⟩, listed, member⟩
    exact ⟨module, symbols, listed, member⟩
  · rintro ⟨module, symbols, listed, member⟩
    exact ⟨(module, symbols), listed, member⟩

private theorem IsTidy.nodup_symbols (tidy : imports.IsTidy)
    (home : ∀ module other symbol, imports.Offers module symbol → imports.Offers other symbol → module = other) :
    imports.symbols.Nodup := by
  rw [symbols, List.nodup_flatMap]
  refine ⟨fun entry member => (tidy entry member).2, ?_⟩
  have apart : imports.toList.Pairwise fun first second => first.1 ≠ second.1 :=
    List.pairwise_map.mp imports.modules.distinct
  refine apart.imp_of_mem fun {first second} listed known different symbol inFirst inSecond => ?_
  exact different (home _ _ symbol ⟨_, listed, inFirst⟩ ⟨_, known, inSecond⟩)

end Imports

private theorem mem_firstAppearances {α : Type} [DecidableEq α] {values : List α} {value : α} :
    value ∈ firstAppearances values ↔ value ∈ values := by
  rw [firstAppearances_eq_eraseDups, List.mem_eraseDups]

namespace Component
open Imports

/-- The module names that a library uses, spelled without quotes, braces and blanks. -/
def isSourcePart (c : Char) : Bool := isNamePart c || c ∈ ['@', '/', '.', '-']

def IsSource (module : String) : Prop := ∀ c ∈ module.toList, isSourcePart c = true

instance (module : String) : Decidable (IsSource module) := inferInstanceAs (Decidable (∀ c ∈ module.toList, _))

/-- What holds of the wrappers of every library. -/
structure Library.IsLegible (library : Library) : Prop where
  sources : ∀ entry ∈ library.wrappers, IsSource entry.2.module
  symbols : ∀ entry ∈ library.wrappers, ∀ symbol ∈ entry.2.symbols, Naming.IsPlain symbol
  home : ∀ entry ∈ library.wrappers, ∀ other ∈ library.wrappers, ∀ symbol ∈ entry.2.symbols,
    symbol ∈ other.2.symbols → entry.2.module = other.2.module

/-- A library whose wrappers need no more than those of a legible one is legible. -/
theorem Library.IsLegible.mono {library larger : Library} (legible : larger.IsLegible)
    (within : ∀ entry ∈ library.wrappers, ∃ other ∈ larger.wrappers,
      other.2.module = entry.2.module ∧ entry.2.symbols ⊆ other.2.symbols) : library.IsLegible where
  sources := by
    intro entry inside
    obtain ⟨other, listed, same, -⟩ := within entry inside
    exact same ▸ legible.sources other listed
  symbols := by
    intro entry inside symbol offered
    obtain ⟨other, listed, -, more⟩ := within entry inside
    exact legible.symbols other listed symbol (more offered)
  home := by
    intro first inFirst second inSecond symbol offered again
    obtain ⟨one, listed, sameFirst, moreFirst⟩ := within first inFirst
    obtain ⟨two, known, sameSecond, moreSecond⟩ := within second inSecond
    rw [← sameFirst, ← sameSecond]
    exact legible.home one listed two known symbol (moreFirst offered) (moreSecond again)

theorem isLegible_library (target : Target) : target.renderer.library.IsLegible := by
  have react : React.library.IsLegible := ⟨by decide +kernel, by decide +kernel, by decide +kernel⟩
  cases target with
  | react => exact react
  | vue => exact react.mono (by decide +kernel)
  | angular => exact ⟨by decide +kernel, by decide +kernel, by decide +kernel⟩

/-- The imports with those for one more role. -/
def Library.collect (library : Library) (imports : Imports) (role : Role) : Imports :=
  match library.wrapper? role with
  | some wrapper => imports.addAll wrapper.module wrapper.symbols
  | none => imports

namespace Renderer

variable {renderer : Renderer} {node : Node} {module symbol : String}

theorem offers_foldl (library : Library) (roles : List Role) (imports : Imports) :
    (roles.foldl library.collect imports).Offers module symbol ↔
      imports.Offers module symbol ∨ ∃ role ∈ roles, ∃ wrapper, library.wrapper? role = some wrapper ∧
        module = wrapper.module ∧ symbol ∈ wrapper.symbols := by
  induction roles generalizing imports with
  | nil => simp
  | cons role roles ih =>
    rw [List.foldl_cons, ih, Library.collect]
    cases found : library.wrapper? role with
    | none => simp [found]
    | some wrapper => simp [found, offers_addAll, or_assoc]

theorem imports_eq_foldl (renderer : Renderer) (node : Node) :
    renderer.imports node = node.roles.foldl renderer.library.collect .empty := rfl

/-- The imports are what the wrappers of the design's roles ask for. -/
theorem offers_imports : (renderer.imports node).Offers module symbol ↔
    ∃ layer ∈ node.values, ∃ wrapper, renderer.library.wrapper? layer.role = some wrapper ∧
      module = wrapper.module ∧ symbol ∈ wrapper.symbols := by
  rw [imports_eq_foldl, offers_foldl]
  simp [not_offers_empty, Node.roles, mem_firstAppearances]

private theorem isTidy_imports (renderer : Renderer) (node : Node) : (renderer.imports node).IsTidy := by
  have kept : ∀ (roles : List Role) (imports : Imports), imports.IsTidy →
      (roles.foldl renderer.library.collect imports).IsTidy := by
    intro roles
    induction roles with
    | nil => exact fun imports tidy => tidy
    | cons role roles ih =>
      intro imports tidy
      refine ih _ ?_
      rw [Library.collect]
      split
      · exact tidy.addAll _ _
      · exact tidy
  exact kept node.roles _ isTidy_empty

theorem mem_symbols_imports : symbol ∈ (renderer.imports node).symbols ↔
    ∃ layer ∈ node.values, ∃ wrapper, renderer.library.wrapper? layer.role = some wrapper ∧
      symbol ∈ wrapper.symbols := by
  simp only [mem_symbols, offers_imports]
  constructor
  · rintro ⟨_, layer, inside, wrapper, found, -, member⟩
    exact ⟨layer, inside, wrapper, found, member⟩
  · rintro ⟨layer, inside, wrapper, found, member⟩
    exact ⟨_, layer, inside, wrapper, found, rfl, member⟩

/-- Imports that can be written as they are, without a symbol twice. -/
structure Collected (imports : Imports) : Prop where
  sources : ∀ entry ∈ imports.toList, IsSource entry.1
  nonempty : ∀ entry ∈ imports.toList, entry.2 ≠ []
  plain : ∀ entry ∈ imports.toList, ∀ symbol ∈ entry.2, Naming.IsPlain symbol
  distinct : imports.symbols.Nodup

theorem collected_imports (legible : renderer.library.IsLegible) (node : Node) : Collected (renderer.imports node) := by
  have tidy := isTidy_imports renderer node
  have wrapperOf : ∀ {module symbol}, (renderer.imports node).Offers module symbol →
      ∃ entry ∈ renderer.library.wrappers, module = entry.2.module ∧ symbol ∈ entry.2.symbols := by
    intro module symbol offered
    obtain ⟨layer, -, wrapper, found, same, member⟩ := offers_imports.mp offered
    exact ⟨_, Library.mem_of_wrapper? found, same, member⟩
  refine ⟨fun entry member => ?_, fun entry member => (tidy entry member).1, fun entry member symbol inside => ?_, ?_⟩
  · obtain ⟨symbol, inside⟩ := List.exists_mem_of_ne_nil _ (tidy entry member).1
    obtain ⟨listed, known, same, -⟩ := wrapperOf ⟨entry.2, member, inside⟩
    exact same ▸ legible.sources listed known
  · obtain ⟨listed, known, -, offered⟩ := wrapperOf ⟨entry.2, member, inside⟩
    exact legible.symbols listed known symbol offered
  · refine tidy.nodup_symbols fun module other symbol first second => ?_
    obtain ⟨entry, known, rfl, inFirst⟩ := wrapperOf first
    obtain ⟨rest, listed, rfl, inSecond⟩ := wrapperOf second
    exact legible.home entry known rest listed symbol inFirst inSecond

end Renderer

end Component

end Handoff
