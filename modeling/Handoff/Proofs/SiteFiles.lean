import Handoff.Proofs.ComponentModules
import Handoff.Proofs.PageReading
import Handoff.Proofs.PlannedPaths

/-! The files of a site fit together. What a page imports, seen from the page, are the
stylesheet and the components of its sections, each under the name that the page mounts it
by; and each component's file, read as a module, exports that name, unless the components
are for Vue, whose files export nothing by name. -/

namespace Handoff.Site
open Naming Text Script

variable {manifest : Manifest} {design : Node} {items : List Section}

/-- The stylesheet, seen from the page. -/
def stylesheetSource : String := "../styles/global.css"

/-- All files of a site are below one directory. -/
theorem exists_base (accepted : manifest.IsAccepted) (root : Path) :
    ∃ base,
      (∀ (target : Target) (item : Section), IsPlain item.name → (componentFile manifest root target item).path =
        ⟨base ++ "/" ++ ("components/sections/" ++ Component.fileName target item.name)⟩) ∧
      (∀ (design : Node) (items : List Section), (pageFile manifest design items root).path =
        ⟨base ++ "/" ++ "pages" ++ "/" ++ (manifest.output.page ++ ".astro")⟩) ∧
      (stylesheetFile manifest root).path = ⟨base ++ "/" ++ "styles/global.css"⟩ := by
  obtain ⟨base, below⟩ := exists_output accepted root
  refine ⟨base, fun target item plain => ?_, fun design items => ?_, ?_⟩
  · rw [path_componentFile accepted, (Placement.isConfined_component plain target).path_eq below, String.append_assoc,
      String.append_assoc]
    rfl
  · rw [path_pageFile accepted, (Placement.isConfined_page accepted).path_eq below]
    rfl
  · rw [path_stylesheetFile accepted, Placement.isConfined_stylesheet.path_eq below, String.append_assoc, String.append_assoc]
    rfl

/-- A component is where the page imports it from. -/
theorem resolve_modulePath (accepted : manifest.IsAccepted) (root : Path) (target : Target) {item : Section}
    (plain : IsPlain item.name) :
    (pageFile manifest design items root).path.resolve (Page.Mount.modulePath ⟨item.name, target, item.activation⟩) =
      (componentFile manifest root target item).path := by
  obtain ⟨base, component, page, -⟩ := exists_base accepted root
  have source : Page.Mount.modulePath ⟨item.name, target, item.activation⟩ =
      "../" ++ ("components/sections/" ++ Component.fileName target item.name) := by
    rw [← String.append_assoc]
    rfl
  have way : splitString '/' ("components/sections/" ++ Component.fileName target item.name) =
      ["components", "sections", Component.fileName target item.name] := by
    have slashes : "components/sections/" ++ Component.fileName target item.name =
        "components/sections" ++ "/" ++ Component.fileName target item.name := rfl
    rw [slashes, Path.splitString_append, Path.splitString_of_not_mem (slash_not_mem_fileName plain target)]
    rfl
  rw [page design items, component target item plain, source]
  refine Path.resolve_beside base _ (by decide) (by decide) (slash_not_mem_page accepted) ?_
  rw [way]
  exact List.forall_mem_cons.mpr ⟨by decide, List.forall_mem_cons.mpr ⟨by decide,
    List.forall_mem_singleton.mpr (isOrdinary_fileName plain target)⟩⟩

/-- The stylesheet is where the page imports it from. -/
theorem resolve_stylesheet (accepted : manifest.IsAccepted) (root : Path) :
    (pageFile manifest design items root).path.resolve stylesheetSource = (stylesheetFile manifest root).path := by
  obtain ⟨base, -, page, stylesheet⟩ := exists_base accepted root
  have source : stylesheetSource = "../" ++ "styles/global.css" := rfl
  rw [page design items, stylesheet, source]
  exact Path.resolve_beside base _ (by decide) (by decide) (slash_not_mem_page accepted) (by decide)

theorem head?_targets (accepted : manifest.IsAccepted) : manifest.output.targets.head? = some (pageTarget manifest) := by
  cases listed : manifest.output.targets with
  | nil => exact absurd listed accepted.targets_ne_nil
  | cons target targets => simp [pageTarget, listed]

theorem componentFile_mem_plan (accepted : manifest.IsAccepted) (root : Path) {item : Section} (listed : item ∈ items) :
    componentFile manifest root (pageTarget manifest) item ∈ plan manifest design items root := by
  have configured : pageTarget manifest ∈ manifest.output.targets := List.mem_of_head? (head?_targets accepted)
  exact List.mem_append_left _ (List.mem_flatMap.mpr ⟨_, configured, List.mem_map_of_mem listed⟩)

theorem named_mounts (plain : ∀ item ∈ items, IsPlain item.name) : ∀ mount ∈ mounts manifest items, IsPlain mount.name := by
  intro mount member
  obtain ⟨item, listed, rfl⟩ := List.mem_map.mp member
  exact plain item listed

theorem scriptStatements_pageFile (plain : ∀ item ∈ items, IsPlain item.name) (root : Path) :
    Page.scriptStatements (pageFile manifest design items root).content =
      .importOnly stylesheetSource ::
        (mounts manifest items).map fun mount => .importNamed [mount.symbol] mount.modulePath :=
  Page.scriptStatements_text design _ (named_mounts plain) _ _

/-- A page that imports components, each once and under the name by which it mounts it, and
a stylesheet. An import is a name with the way to its file. -/
structure Linked (page stylesheet : OutputFile) (components : List OutputFile) (imports : List (String × String)) : Prop where
  script : Page.scriptStatements page.content =
    .importOnly stylesheetSource :: imports.map fun entry => .importNamed [entry.1] entry.2
  mounted : Page.mountedTags page.content = imports.map Prod.fst
  distinct : (imports.map Prod.fst).Nodup
  resolved : List.Forall₂ (fun entry component => page.path.resolve entry.2 = component.path) imports components
  styled : page.path.resolve stylesheetSource = stylesheet.path

private theorem symbol_injective {target : Target} {first second : String}
    (same : Page.exportedSymbol target first = Page.exportedSymbol target second) : first = second := by
  cases target with
  | angular => exact String.append_left_inj "Component" |>.mp same
  | react | vue => exact same

/-- The page of a site with sections imports the components of its sections for the first
target, in their order, from where the site has them, and mounts each of them. -/
theorem linked_plan (accepted : manifest.IsAccepted) (found : sections manifest design = .ok items)
    (nonempty : items ≠ []) (root : Path) :
    ∃ target imports, manifest.output.targets.head? = some target ∧
      pageFile manifest design items root ∈ plan manifest design items root ∧
      stylesheetFile manifest root ∈ plan manifest design items root ∧
      (∀ item ∈ items, componentFile manifest root target item ∈ plan manifest design items root) ∧
      Linked (pageFile manifest design items root) (stylesheetFile manifest root)
        (items.map (componentFile manifest root target)) imports := by
  obtain ⟨names, plain⟩ := names_of_sections accepted found
  refine ⟨pageTarget manifest, (mounts manifest items).map fun mount => (mount.symbol, mount.modulePath),
    head?_targets accepted, by simp [plan], by simp [plan], fun item listed => componentFile_mem_plan accepted root listed,
    ⟨?_, ?_, ?_, ?_, resolve_stylesheet accepted root⟩⟩
  · rw [scriptStatements_pageFile plain, List.map_map]
    rfl
  · have some : mounts manifest items ≠ [] := by simpa [mounts] using nonempty
    refine (Page.mountedTags_text design _ some (named_mounts plain) _ _).trans ?_
    rw [List.map_map]
    rfl
  · have symbols : ((mounts manifest items).map fun mount => (mount.symbol, mount.modulePath)).map Prod.fst =
        (items.map Section.name).map (Page.exportedSymbol (pageTarget manifest)) := by
      simp [mounts, Function.comp_def, Page.Mount.symbol]
    rw [symbols]
    exact names.map fun _ _ => symbol_injective
  · rw [mounts, List.map_map, List.forall₂_map_left_iff, List.forall₂_map_right_iff, List.forall₂_same]
    exact fun item listed => resolve_modulePath accepted root _ (plain item listed)

/-- Two sections of one label, with the second one renamed. -/
theorem linked_plan_sample :
    let design := pageOf [.node (.bare "1:1" "Feature" .hero) [], .node (.bare "2:1" "Feature" .footer) []]
    let items := derivedSections design
    ((Manifest.brief [.angular, .react] []).IsAccepted ∧ sections (.brief [.angular, .react] []) design = .ok items ∧ items ≠ []) ∧
      ∃ target imports, (Manifest.brief [.angular, .react] []).output.targets.head? = some target ∧
        Linked (pageFile (.brief [.angular, .react] []) design items .current) (stylesheetFile (.brief [.angular, .react] []) .current)
          (items.map (componentFile (.brief [.angular, .react] []) .current target)) imports := by
  intro design items
  have accepted : (Manifest.brief [.angular, .react] []).IsAccepted := by decide +kernel
  have found : sections (.brief [.angular, .react] []) design = .ok items := rfl
  have nonempty : items ≠ [] := by decide +kernel
  obtain ⟨target, imports, first, -, -, -, linked⟩ := linked_plan accepted found nonempty .current
  exact ⟨⟨accepted, found, nonempty⟩, target, imports, first, linked⟩

/-- A component that a page imports is in a file of the site; that file exports the name that
the page asks for, unless it is a component for Vue. -/
theorem exports_imported (accepted : manifest.IsAccepted) (found : sections manifest design = .ok items) (root : Path)
    {names : List String} {source : String}
    (imported : .importNamed names source ∈ Page.scriptStatements (pageFile manifest design items root).content) :
    ∃ target file, manifest.output.targets.head? = some target ∧ file ∈ plan manifest design items root ∧
      (pageFile manifest design items root).path.resolve source = file.path ∧
      ((∀ name ∈ names, name ∈ exportedNames target file.content) ↔ target ≠ .vue) := by
  obtain ⟨-, plain⟩ := names_of_sections accepted found
  rw [scriptStatements_pageFile plain] at imported
  obtain ⟨mount, listed, same⟩ := List.mem_map.mp ((List.mem_cons.mp imported).resolve_left Statement.noConfusion)
  obtain ⟨item, member, rfl⟩ := List.mem_map.mp listed
  cases same
  refine ⟨pageTarget manifest, componentFile manifest root (pageTarget manifest) item, head?_targets accepted,
    componentFile_mem_plan accepted root member, resolve_modulePath accepted root _ (plain item member), ?_⟩
  rw [List.forall_mem_singleton, componentFile, exportedNames_render _ (plain item member)]
  generalize pageTarget manifest = target
  cases target <;> simp [Page.Mount.symbol, Page.exportedSymbol, Target.declares]

def heroFrame : Node := .node (.bare "1:1" "Hero" .hero) []

theorem exports_imported_sample :
    let design := pageOf [heroFrame]
    let items := derivedSections design
    let page := pageFile (.brief [.angular] []) design items .current
    ((Manifest.brief [.angular] []).IsAccepted ∧ sections (.brief [.angular] []) design = .ok items ∧
      .importNamed ["HeroComponent"] "../components/sections/Hero.component.ts" ∈ Page.scriptStatements page.content) ∧
    ∃ target file, (Manifest.brief [.angular] []).output.targets.head? = some target ∧
      file ∈ plan (.brief [.angular] []) design items .current ∧
      page.path.resolve "../components/sections/Hero.component.ts" = file.path ∧
      ((∀ name ∈ ["HeroComponent"], name ∈ exportedNames target file.content) ↔ target ≠ .vue) := by
  intro design items page
  have accepted : (Manifest.brief [.angular] []).IsAccepted := by decide +kernel
  have found : sections (.brief [.angular] []) design = .ok items := rfl
  have imported : .importNamed ["HeroComponent"] "../components/sections/Hero.component.ts" ∈
      Page.scriptStatements page.content := by
    rw [scriptStatements_pageFile (names_of_sections accepted found).2]
    decide +kernel
  exact ⟨⟨accepted, found, imported⟩, exports_imported accepted found .current imported⟩

/-- The page asks the file of a component for Vue for a name, and the file exports none. -/
theorem exportedNames_vue_sample :
    let design := pageOf [heroFrame]
    let items := derivedSections design
    let page := pageFile (.brief [.vue] []) design items .current
    (Manifest.brief [.vue] []).IsAccepted ∧ sections (.brief [.vue] []) design = .ok items ∧
      .importNamed ["Hero"] "../components/sections/Hero.vue" ∈ Page.scriptStatements page.content ∧
      ∃ file ∈ plan (.brief [.vue] []) design items .current,
        page.path.resolve "../components/sections/Hero.vue" = file.path ∧ exportedNames .vue file.content = [] := by
  intro design items page
  have accepted : (Manifest.brief [.vue] []).IsAccepted := by decide +kernel
  have found : sections (.brief [.vue] []) design = .ok items := rfl
  have imported : .importNamed ["Hero"] "../components/sections/Hero.vue" ∈ Page.scriptStatements page.content := by
    rw [scriptStatements_pageFile (names_of_sections accepted found).2]
    decide +kernel
  let hero : Section := ⟨"Hero", heroFrame, .none⟩
  have listed : hero ∈ items := by decide +kernel
  have plain : IsPlain hero.name := (names_of_sections accepted found).2 hero listed
  exact ⟨accepted, found, imported, componentFile (.brief [.vue] []) .current .vue hero,
    componentFile_mem_plan accepted .current listed, by decide +kernel, exportedNames_render .vue plain _ _⟩

end Handoff.Site
