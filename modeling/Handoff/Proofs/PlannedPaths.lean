import Handoff.Proofs.PageSections
import Handoff.Proofs.PathResolution
import Handoff.Site.Plan
import Mathlib.Data.List.Nodup

/-! Where the files of a site go. Each file has a place of its own: a directory that is the same
for all files of its kind, below the one for output, and a name that leads nowhere else. What
layers and sections are called decides the name and nothing more. -/

namespace Handoff

namespace Manifest

private theorem nodup_of_repeated {α : Type} [DecidableEq α] {seen items : List α} (single : repeated seen items = []) :
    items.Nodup ∧ ∀ item ∈ items, item ∉ seen := by
  induction items generalizing seen with
  | nil => exact ⟨List.nodup_nil, List.forall_mem_nil _⟩
  | cons item rest ih =>
    rw [repeated, List.append_eq_nil_iff] at single
    obtain ⟨distinct, later⟩ := ih single.2
    have fresh : item ∉ seen := by
      intro known
      rw [if_pos known] at single
      cases single.1
    refine ⟨List.nodup_cons.mpr ⟨fun again => later item again List.mem_cons_self, distinct⟩, ?_⟩
    refine List.forall_mem_cons.mpr ⟨fresh, fun other member known => ?_⟩
    exact later other member (List.mem_cons_of_mem _ known)

private theorem IsAccepted.nodup_targets {manifest : Manifest} (accepted : manifest.IsAccepted) :
    manifest.output.targets.Nodup := by
  simp only [IsAccepted, flaws, Output.flaws, List.append_eq_nil_iff, List.map_eq_nil_iff] at accepted
  exact (nodup_of_repeated accepted.1.1.1.2.1.2).1

end Manifest

namespace Site
open Naming Text

variable {manifest : Manifest} {design : Node} {items : List Section}

theorem slash_not_mem_fileName {name : String} (plain : IsPlain name) (target : Target) :
    '/' ∉ (Component.fileName target name).toList := by
  have whole : '/' ∉ name.toList := plain.not_mem (by decide)
  have ending : '/' ∉ ("." ++ target.extension).toList := by cases target <;> decide
  rw [Component.fileName, String.append_assoc, String.toList_append, List.mem_append, not_or]
  exact ⟨whole, ending⟩

theorem isOrdinary_fileName {name : String} (plain : IsPlain name) (target : Target) :
    Path.IsOrdinary (Component.fileName target name) := by
  obtain ⟨first, rest, spelling⟩ := List.exists_cons_of_ne_nil (l := name.toList) (by simpa using plain.nonempty)
  have letter : first ≠ '.' := ne_of_isNamePart (plain.parts first (by simp [spelling])) (by decide)
  have start : ∃ more, (Component.fileName target name).toList = first :: more := by
    simp [Component.fileName, spelling]
  obtain ⟨more, leading⟩ := start
  have other : ∀ s : String, s ∈ ["", ".", ".."] → Component.fileName target name ≠ s := by
    rintro s listed same
    rw [same] at leading
    simp only [List.mem_cons, List.not_mem_nil, or_false] at listed
    rcases listed with rfl | rfl | rfl
    · cases leading
    · exact letter (List.cons.inj leading).1.symm
    · exact letter (List.cons.inj leading).1.symm
  refine ⟨?_, other _ (by decide)⟩
  simp [Path.isIdle, other "" (by decide), other "." (by decide)]

theorem slash_not_mem_page (accepted : manifest.IsAccepted) : '/' ∉ (manifest.output.page ++ ".astro").toList := by
  have kebab := accepted.isKebabCase_page
  rw [isKebabCase, Bool.and_eq_true, List.all_eq_true] at kebab
  have ending : '/' ∉ ".astro".toList := by decide
  rw [String.toList_append, List.mem_append, not_or]
  exact ⟨fun slash => absurd (kebab.2 '/' slash) (by decide), ending⟩

private theorem isOrdinary_page (page : String) : Path.IsOrdinary (page ++ ".astro") := by
  have long : 2 < (page ++ ".astro").length := by
    have ending : ".astro".length = 6 := rfl
    rw [String.length_append]
    omega
  have other : ∀ s : String, s ∈ ["", ".", ".."] → page ++ ".astro" ≠ s := by
    intro s listed same
    have short : ∀ s ∈ ["", ".", ".."], s.length ≤ 2 := by decide
    have := short s listed
    rw [same] at long
    omega
  refine ⟨?_, other _ (by decide)⟩
  simp [Path.isIdle, other "" (by decide), other "." (by decide)]

/-- A directory below the one for output, and a name in it. -/
structure Placement where
  directory : String
  name : String

def directories : List String := ["components/sections", "pages", "styles"]

namespace Placement

def path (placement : Placement) (output : Path) : Path := output / placement.directory / placement.name

structure IsConfined (placement : Placement) : Prop where
  directory : placement.directory ∈ directories
  ordinary : Path.IsOrdinary placement.name
  whole : '/' ∉ placement.name.toList

variable {placement other : Placement}

theorem IsConfined.path_eq (confined : placement.IsConfined) {output : Path} {base : String}
    (below : output.below = base ++ "/") :
    placement.path output = ⟨base ++ "/" ++ placement.directory ++ "/" ++ placement.name⟩ := by
  have known : ∀ directory ∈ directories, directory ≠ "" ∧ Path.isAbsolute ⟨directory⟩ = false ∧
      Path.below ⟨directory⟩ = directory ++ "/" := by decide
  obtain ⟨nonempty, relative, inside⟩ := known _ confined.directory
  have outer : output / placement.directory = ⟨base ++ "/" ++ placement.directory⟩ := by
    rw [← below]
    exact Path.join_relative relative output
  refine (Path.join_relative (Path.isAbsolute_of_not_mem confined.whole) _).trans ?_
  rw [outer, Path.below_append _ nonempty, inside]
  simp only [String.append_assoc]

theorem IsConfined.segments_path (confined : placement.IsConfined) {output : Path} {base : String}
    (below : output.below = base ++ "/") :
    (placement.path output).segments =
      splitString '/' base ++ (splitString '/' placement.directory ++ [placement.name]) := by
  rw [confined.path_eq below, Path.segments, Path.splitString_append, Path.splitString_append,
    Path.splitString_of_not_mem confined.whole, List.append_assoc]

/-- A place is told by the way there. -/
theorem eq_of_segments (same : splitString '/' placement.directory ++ [placement.name] =
    splitString '/' other.directory ++ [other.name]) : placement = other := by
  obtain ⟨directories, names⟩ := List.append_inj' same rfl
  have directory : placement.directory = other.directory := by
    have texts := congrArg Path.ofSegments directories
    rw [Path.ofSegments_splitString, Path.ofSegments_splitString] at texts
    exact congrArg Path.text texts
  cases placement
  cases other
  cases directory
  cases List.singleton_inj.mp names
  rfl

theorem IsConfined.ordinary_segments (confined : placement.IsConfined) :
    ∀ segment ∈ splitString '/' placement.directory ++ [placement.name], Path.IsOrdinary segment := by
  have known : ∀ directory ∈ directories, ∀ segment ∈ splitString '/' directory, Path.IsOrdinary segment := by decide
  intro segment member
  rcases List.mem_append.mp member with inside | last
  · exact known _ confined.directory segment inside
  · cases List.mem_singleton.mp last
    exact confined.ordinary

private theorem IsConfined.names_path (confined : placement.IsConfined) {output : Path} {base : String}
    (below : output.below = base ++ "/") : (placement.path output).names =
      (splitString '/' base).filter (!Path.isIdle ·) ++ (splitString '/' placement.directory ++ [placement.name]) := by
  have names : (splitString '/' placement.directory ++ [placement.name]).filter (!Path.isIdle ·) =
      splitString '/' placement.directory ++ [placement.name] := by
    rw [List.filter_eq_self]
    intro segment member
    rw [(confined.ordinary_segments segment member).1]
    rfl
  rw [Path.names, confined.segments_path below, List.filter_append, names]

end Placement

namespace Placement

def component (target : Target) (item : Section) : Placement := ⟨"components/sections", Component.fileName target item.name⟩

def page (manifest : Manifest) : Placement := ⟨"pages", manifest.output.page ++ ".astro"⟩

def stylesheet : Placement := ⟨"styles", "global.css"⟩

theorem isConfined_component {item : Section} (plain : IsPlain item.name) (target : Target) : (component target item).IsConfined :=
  ⟨by simp [component, directories], isOrdinary_fileName plain target, slash_not_mem_fileName plain target⟩

theorem isConfined_page (accepted : manifest.IsAccepted) : (page manifest).IsConfined :=
  ⟨by simp [page, directories], isOrdinary_page manifest.output.page, slash_not_mem_page accepted⟩

theorem isConfined_stylesheet : stylesheet.IsConfined := ⟨by decide, by decide, by decide⟩

end Placement

/-- The places of a site's files, in the order in which the files are written. -/
def placements (manifest : Manifest) (items : List Section) : List Placement :=
  manifest.output.targets.flatMap (fun target => items.map (.component target)) ++ [.page manifest, .stylesheet]

private theorem extension_injective {target other : Target} (same : target.extension = other.extension) : target = other := by
  cases target <;> cases other <;> first | rfl | exact absurd same (by decide)

/-- A name that needs no escaping has no dot, so it ends where the extension begins. -/
theorem fileName_inj {target other : Target} {first second : String} (plain : IsPlain first) (also : IsPlain second)
    (same : Component.fileName target first = Component.fileName other second) : target = other ∧ first = second := by
  have parts : ∀ (target : Target) {name : String}, IsPlain name →
      split '.' (Component.fileName target name).toList = name.toList :: split '.' target.extension.toList := by
    intro target name plain
    have spelling : (Component.fileName target name).toList = name.toList ++ '.' :: target.extension.toList := by
      simp [Component.fileName]
    rw [spelling, split_append, split_of_not_mem (plain.not_mem (by decide))]
    rfl
  have cuts := parts target plain
  rw [same, parts other also] at cuts
  obtain ⟨names, extensions⟩ := List.cons.inj cuts
  have joined := congrArg (Text.join '.') extensions
  rw [join_split, join_split] at joined
  exact ⟨extension_injective (String.toList_inj.mp joined.symm), String.toList_inj.mp names.symm⟩

private theorem length_placements : (placements manifest items).length = manifest.output.targets.length * items.length + 2 := by
  rw [placements, List.length_append, List.length_flatMap]
  simp

theorem confined_placements (accepted : manifest.IsAccepted) (plain : ∀ item ∈ items, IsPlain item.name) :
    ∀ placement ∈ placements manifest items, placement.IsConfined := by
  intro placement member
  rcases List.mem_append.mp member with component | other
  · obtain ⟨target, -, listed⟩ := List.mem_flatMap.mp component
    obtain ⟨item, inside, rfl⟩ := List.mem_map.mp listed
    exact Placement.isConfined_component (plain item inside) target
  · rcases List.mem_pair.mp other with rfl | rfl
    · exact Placement.isConfined_page accepted
    · exact Placement.isConfined_stylesheet

private theorem nodup_placements (accepted : manifest.IsAccepted) (distinct : (items.map Section.name).Nodup)
    (plain : ∀ item ∈ items, IsPlain item.name) : (placements manifest items).Nodup := by
  have ofTarget : ∀ target : Target, (items.map (Placement.component target)).Nodup := by
    intro target
    refine List.Nodup.map_on ?_ (List.Nodup.of_map Section.name distinct)
    intro first inFirst second inSecond same
    have names := (fileName_inj (plain first inFirst) (plain second inSecond) (congrArg Placement.name same)).2
    exact List.inj_on_of_nodup_map distinct inFirst inSecond names
  rw [placements, List.nodup_append, List.nodup_flatMap]
  refine ⟨⟨fun target _ => ofTarget target, ?_⟩, by simp [Placement.page, Placement.stylesheet], ?_⟩
  · refine accepted.nodup_targets.imp fun {target other} different => ?_
    intro placement inFirst inSecond
    obtain ⟨first, member, rfl⟩ := List.mem_map.mp inFirst
    obtain ⟨second, also, same⟩ := List.mem_map.mp inSecond
    exact different (fileName_inj (plain first member) (plain second also) (congrArg Placement.name same.symm)).1
  · rintro placement component other rest rfl
    obtain ⟨target, -, listed⟩ := List.mem_flatMap.mp component
    obtain ⟨item, -, rfl⟩ := List.mem_map.mp listed
    simp [Placement.component, Placement.page, Placement.stylesheet] at rest

theorem exists_output (accepted : manifest.IsAccepted) (root : Path) :
    ∃ base, (root.join manifest.output.directory).below = base ++ "/" :=
  Path.exists_below (Path.text_join_ne accepted.directory_ne root)

theorem join_placement (accepted : manifest.IsAccepted) (root : Path) {directory name : String} (named : directory ≠ "")
    (whole : '/' ∉ directory.toList) (also : '/' ∉ name.toList) :
    root.join (manifest.output.directory / directory / name) = root.join manifest.output.directory / directory / name :=
  Path.join_inside accepted.directory_ne named (Path.isAbsolute_of_not_mem whole) (Path.isAbsolute_of_not_mem also) root

theorem path_componentFile (accepted : manifest.IsAccepted) (root : Path) (target : Target) (item : Section) :
    (componentFile manifest root target item).path =
      (Placement.component target item).path (root.join manifest.output.directory) := by
  have components : root.join manifest.output.componentsDirectory = root.join manifest.output.directory / "components/sections" := by
    rw [Manifest.Output.componentsDirectory, join_placement accepted root (by decide) (by decide) (by decide)]
    exact Path.join_name (by decide) (by decide) _ (by decide)
  rw [componentFile, components]
  rfl

theorem path_pageFile (accepted : manifest.IsAccepted) (design : Node) (items : List Section) (root : Path) :
    (pageFile manifest design items root).path =
      (Placement.page manifest).path (root.join manifest.output.directory) := by
  rw [pageFile, Manifest.Output.pagePath, join_placement accepted root (by decide) (by decide) (slash_not_mem_page accepted)]
  rfl

theorem path_stylesheetFile (accepted : manifest.IsAccepted) (root : Path) :
    (stylesheetFile manifest root).path = Placement.stylesheet.path (root.join manifest.output.directory) := by
  rw [stylesheetFile, Manifest.Output.stylesheetPath, join_placement accepted root (by decide) (by decide) (by decide)]
  rfl

theorem paths_plan (accepted : manifest.IsAccepted) (root : Path) :
    (plan manifest design items root).map OutputFile.path =
      (placements manifest items).map (·.path (root.join manifest.output.directory)) := by
  simp only [plan, placements, List.map_append, List.map_flatMap, List.map_map, List.map_cons, List.map_nil,
    Function.comp_def, path_componentFile accepted, path_pageFile accepted, path_stylesheetFile accepted]

theorem exists_placement (accepted : manifest.IsAccepted) (found : sections manifest design = .ok items) {root : Path} {file : OutputFile}
    (listed : file ∈ plan manifest design items root) :
    ∃ placement : Placement, placement.IsConfined ∧ file.path = placement.path (root.join manifest.output.directory) := by
  have path := List.mem_map_of_mem (f := OutputFile.path) listed
  rw [paths_plan accepted] at path
  obtain ⟨placement, planned, same⟩ := List.mem_map.mp path
  exact ⟨placement, confined_placements accepted (names_of_sections accepted found).2 placement planned, same.symm⟩

/-- What tells the places of a site apart tells its files apart. -/
theorem pairwise_plan {α : Type} (accepted : manifest.IsAccepted) (found : sections manifest design = .ok items) (root : Path)
    (mark : Path → α)
    (apart : ∀ first second : Placement, first.IsConfined → second.IsConfined →
      mark (first.path (root.join manifest.output.directory)) = mark (second.path (root.join manifest.output.directory)) →
        first = second) :
    (plan manifest design items root).Pairwise fun first second => mark first.path ≠ mark second.path := by
  obtain ⟨distinct, plain⟩ := names_of_sections accepted found
  have confined := confined_placements accepted plain
  have paths : ((plan manifest design items root).map OutputFile.path).Pairwise fun first second => mark first ≠ mark second := by
    rw [paths_plan accepted, List.pairwise_map]
    apply (nodup_placements accepted distinct plain).imp_of_mem
    intro first second inFirst inSecond different same
    exact different (apart first second (confined first inFirst) (confined second inSecond) same)
  rw [List.pairwise_map] at paths
  exact paths

/-- The files of a site are one for each section and target, the page and the stylesheet. No two
of them are the same, and each is directly in a directory of its kind, whatever layers are called. -/
theorem plan_confined (accepted : manifest.IsAccepted) (found : sections manifest design = .ok items) (root : Path) :
    (plan manifest design items root).length = manifest.output.targets.length * items.length + 2 ∧
      (plan manifest design items root).Pairwise (fun first second => first.path.names ≠ second.path.names) ∧
      ∀ file ∈ plan manifest design items root, ∃ directory ∈ directories, ∃ name,
        Path.IsOrdinary name ∧ '/' ∉ name.toList ∧ file.path = root.join manifest.output.directory / directory / name := by
  refine ⟨?_, ?_, ?_⟩
  · rw [← List.length_map OutputFile.path, paths_plan accepted, List.length_map, length_placements]
  · obtain ⟨base, below⟩ := exists_output accepted root
    apply pairwise_plan accepted found root Path.names
    intro first second confined other same
    rw [confined.names_path below, other.names_path below] at same
    exact Placement.eq_of_segments (List.append_cancel_left same)
  · intro file listed
    obtain ⟨placement, ⟨directory, ordinary, whole⟩, same⟩ := exists_placement accepted found listed
    exact ⟨placement.directory, directory, placement.name, ordinary, whole, same⟩

/-- Layers called by a way out of the directory, by a dot and by nothing. -/
theorem plan_confined_labels :
    let design := pageOf [.node (.bare "1:1" "../../etc" .hero) [], .node (.bare "2:1" "." .hero) [], .node (.bare "3:1" "" .hero) []]
    let items := derivedSections design
    let files := plan (.brief [.react, .vue] []) design items ⟨"site"⟩
    ((Manifest.brief [.react, .vue] []).IsAccepted ∧ sections (.brief [.react, .vue] []) design = .ok items) ∧
      files.length = 8 ∧ files.Pairwise (fun first second => first.path.names ≠ second.path.names) ∧
      ∀ file ∈ files, ∃ directory ∈ directories, ∃ name,
        Path.IsOrdinary name ∧ '/' ∉ name.toList ∧ file.path = (⟨"site/generated"⟩ : Path) / directory / name := by
  intro design items files
  have accepted : (Manifest.brief [.react, .vue] []).IsAccepted := by decide +kernel
  have found : sections (.brief [.react, .vue] []) design = .ok items := rfl
  obtain ⟨length, apart, inside⟩ := plan_confined accepted found ⟨"site"⟩
  have three : items.length = 3 := by decide +kernel
  have output : Path.join ⟨"site"⟩ (Manifest.brief [.react, .vue] []).output.directory = ⟨"site/generated"⟩ := by decide
  rw [output] at inside
  exact ⟨⟨accepted, found⟩, length.trans (by rw [three]; rfl), apart, inside⟩

end Site

end Handoff
