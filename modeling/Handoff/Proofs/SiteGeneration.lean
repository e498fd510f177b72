import Handoff.Proofs.FileRuns
import Handoff.Proofs.RelativePaths
import Handoff.Proofs.SiteFiles
import Mathlib.Data.List.Infix

/-! Making a site. Its files are not in each other's way, so that all of them are there in the end
and a second time nothing is left to do; and wherever it stops, no other file was touched. -/

namespace Handoff.Site
open FileTree Text

variable {tree middle after : FileTree} {result : Except WriteFailure (List WriteStatus)}

section Locations

variable {placement other : Placement} {output : Path} {base : String}

namespace Placement

/-- The location of the directory for output. -/
def outer (tree : FileTree) (base : String) : Location := (splitString '/' base).foldl descend (tree.start ⟨base ++ "/"⟩)

theorem IsConfined.start_path (confined : placement.IsConfined) (below : output.below = base ++ "/") (tree : FileTree) :
    tree.start (placement.path output) = tree.start ⟨base ++ "/"⟩ := by
  have same : (placement.path output).isAbsolute = Path.isAbsolute ⟨base ++ "/"⟩ := by
    rw [confined.path_eq below, String.append_assoc, String.append_assoc]
    exact Path.isAbsolute_append _ _ (by simp)
  rw [FileTree.start, FileTree.start, same]

theorem IsConfined.destination_path (confined : placement.IsConfined) (below : output.below = base ++ "/") (tree : FileTree) :
    tree.destination (placement.path output) = outer tree base ++ (splitString '/' placement.directory ++ [placement.name]) := by
  rw [destination, confined.segments_path below, confined.start_path below, List.foldl_append]
  exact foldl_descend confined.ordinary_segments _

/-- A path leads to the directory for output and from there down to its own. -/
theorem IsConfined.mem_way_path (confined : placement.IsConfined) (below : output.below = base ++ "/") {stop : Location} :
    stop ∈ tree.way (placement.path output) ↔
      stop ∈ (splitString '/' base).scanl descend (tree.start ⟨base ++ "/"⟩) ∨
        ∃ part, part ≠ [] ∧ part <+: splitString '/' placement.directory ∧ stop = outer tree base ++ part := by
  have down : ∀ segment ∈ splitString '/' placement.directory, Path.IsOrdinary segment :=
    fun segment member => confined.ordinary_segments segment (List.mem_append_left _ member)
  rw [way, confined.segments_path below, confined.start_path below, ← List.append_assoc, List.dropLast_concat, List.scanl_append,
    List.mem_append, ← outer, scanl_descend down]
  apply or_congr_right
  cases splitString '/' placement.directory with
  | nil => simp [List.inits]
  | cons first rest =>
    simp only [List.inits, List.map_cons, List.tail_cons, List.map_map, List.mem_map, List.mem_inits, Function.comp_apply]
    constructor
    · rintro ⟨part, inside, rfl⟩
      exact ⟨first :: part, List.cons_ne_nil _ _, List.cons_prefix_cons.mpr ⟨rfl, inside⟩, rfl⟩
    · rintro ⟨part, some, inside, rfl⟩
      obtain ⟨part, rfl, shorter⟩ := (List.prefix_cons_iff.mp inside).resolve_left some
      exact ⟨part, shorter, rfl⟩

/-- The stylesheet is on no way but its own. -/
theorem IsConfined.stylesheet_mem_way (confined : placement.IsConfined) (below : output.below = base ++ "/")
    (passed : tree.destination (stylesheet.path output) ∈ tree.way (placement.path output)) :
    tree.destination (stylesheet.path output) ∈ tree.way (stylesheet.path output) := by
  rw [isConfined_stylesheet.mem_way_path below]
  rcases (confined.mem_way_path below).mp passed with outside | ⟨part, -, inside, same⟩
  · exact .inl outside
  · rw [isConfined_stylesheet.destination_path below] at same
    have known : ∀ directory ∈ directories, ¬ ["styles", "global.css"] <+: splitString '/' directory := by decide
    have part := List.append_cancel_left same
    rw [← part] at inside
    exact absurd inside (known _ confined.directory)

/-- An existing stylesheet can be reached wherever another file of the site can be. -/
theorem IsConfined.contains_stylesheet (confined : placement.IsConfined) (below : output.below = base ++ "/") (sound : tree.IsSound)
    (reached : tree.Reaches (placement.path output)) (there : tree.at? (tree.destination (stylesheet.path output)) ≠ none) :
    tree.contains (stylesheet.path output) = true := by
  have shared : ∀ segment ∈ splitString '/' base, segment ∈ (placement.path output).segments := by
    intro segment member
    rw [confined.segments_path below]
    exact List.mem_append_left _ member
  rw [contains_iff]
  refine ⟨⟨?_, ?_, ?_⟩, there⟩
  · rw [isConfined_stylesheet.segments_path below, isPassable, List.all_append, Bool.and_eq_true]
    refine ⟨List.all_eq_true.mpr fun segment member => ?_, by decide⟩
    exact List.all_eq_true.mp reached.passable segment (shared segment member)
  · rw [isConfined_stylesheet.segments_path below, List.forall_mem_append]
    refine ⟨fun segment member => reached.passages segment (shared segment member), ?_⟩
    have named : ∀ segment ∈ splitString '/' stylesheet.directory ++ [stylesheet.name], isName segment = true := by decide
    exact fun segment member => .inr (.inr (named segment member))
  · intro stop passed
    rcases (isConfined_stylesheet.mem_way_path below).mp passed with outside | ⟨part, some, inside, rfl⟩
    · exact reached.directories stop ((confined.mem_way_path below).mpr (.inl outside))
    · have directory : splitString '/' stylesheet.directory = ["styles"] := by decide
      rw [directory] at inside
      obtain ⟨rest, rfl, nothing⟩ := (List.prefix_cons_iff.mp inside).resolve_left some
      cases List.prefix_nil.mp nothing
      apply sound.inside _ "global.css"
      rw [isConfined_stylesheet.destination_path below, directory, ← List.append_assoc] at there
      exact there

end Placement

end Locations

section Sites

variable {manifest : Manifest} {design : Node} {items : List Section} {root : Path}

/-- The files of a site that are written whatever is there. -/
def sources (manifest : Manifest) (design : Node) (items : List Section) (root : Path) : List OutputFile :=
  manifest.output.targets.flatMap (fun target => items.map (componentFile manifest root target)) ++
    [pageFile manifest design items root]

/-- Where the stylesheet of a site goes. -/
def stylesheetPlace (manifest : Manifest) (root : Path) (tree : FileTree) : Location :=
  tree.destination (stylesheetFile manifest root).path

theorem plan_eq : plan manifest design items root = sources manifest design items root ++ [stylesheetFile manifest root] := by
  simp [plan, sources]

theorem overwrite_of_mem_sources {file : OutputFile} (listed : file ∈ sources manifest design items root) : file.overwrite = .always := by
  rcases List.mem_append.mp listed with component | page
  · obtain ⟨target, -, inside⟩ := List.mem_flatMap.mp component
    obtain ⟨item, -, rfl⟩ := List.mem_map.mp inside
    rfl
  · rw [List.mem_singleton.mp page]
    rfl

theorem mem_plan_of_sources {file : OutputFile} (listed : file ∈ sources manifest design items root) :
    file ∈ plan manifest design items root := by
  rw [plan_eq]
  exact List.mem_append_left _ listed

theorem apart_plan (accepted : manifest.IsAccepted) (found : sections manifest design = .ok items) (root : Path) (tree : FileTree) :
    (plan manifest design items root).Pairwise fun first second => tree.destination first.path ≠ tree.destination second.path := by
  obtain ⟨base, below⟩ := exists_output accepted root
  apply pairwise_plan accepted found root tree.destination
  intro first second confined other same
  rw [confined.destination_path below, other.destination_path below] at same
  exact Placement.eq_of_segments (List.append_cancel_left same)

/-- The other files leave the stylesheet alone, unless it is a directory on their way. -/
theorem stylesheet_untouched (accepted : manifest.IsAccepted) (found : sections manifest design = .ok items)
    (grows : GrowsBy (sources manifest design items root) tree after) :
    after.at? (stylesheetPlace manifest root tree) = tree.at? (stylesheetPlace manifest root tree) ∨
      tree.at? (stylesheetPlace manifest root tree) = none ∧
        stylesheetPlace manifest root tree ∈ tree.way (stylesheetFile manifest root).path := by
  rcases grows.change (stylesheetPlace manifest root tree) with same | ⟨absent, -, other, listed, passed⟩ |
    ⟨-, content, -, other, listed, same, -⟩
  · exact .inl same
  · obtain ⟨base, below⟩ := exists_output accepted root
    obtain ⟨placement, confined, path⟩ := exists_placement accepted found (mem_plan_of_sources listed)
    refine .inr ⟨absent, ?_⟩
    rw [stylesheetPlace, path_stylesheetFile accepted] at passed
    rw [stylesheetPlace, path_stylesheetFile accepted]
    rw [path] at passed
    exact confined.stylesheet_mem_way below passed
  · have apart := apart_plan accepted found root tree
    rw [plan_eq, List.pairwise_append] at apart
    exact absurd same (apart.2.2 other listed _ (List.mem_singleton_self _))

private theorem contains_stylesheetFile {file : OutputFile} (accepted : manifest.IsAccepted)
    (found : sections manifest design = .ok items)
    (sound : tree.IsSound) (listed : file ∈ plan manifest design items root) (reached : tree.Reaches file.path)
    (there : tree.at? (stylesheetPlace manifest root tree) ≠ none) :
    tree.contains (stylesheetFile manifest root).path = true := by
  obtain ⟨base, below⟩ := exists_output accepted root
  obtain ⟨placement, confined, path⟩ := exists_placement accepted found listed
  rw [path] at reached
  rw [stylesheetPlace, path_stylesheetFile accepted] at there
  rw [path_stylesheetFile accepted]
  exact confined.contains_stylesheet below sound reached there

theorem stylesheet_kept (accepted : manifest.IsAccepted) (found : sections manifest design = .ok items) (sound : tree.IsSound)
    (run : Runs tree (plan manifest design items root) after result)
    (there : tree.at? (stylesheetPlace manifest root tree) ≠ none) :
    after.at? (stylesheetPlace manifest root tree) = tree.at? (stylesheetPlace manifest root tree) := by
  have untouched : ∀ {middle result}, Runs tree (sources manifest design items root) middle result →
      middle.at? (stylesheetPlace manifest root tree) =
        tree.at? (stylesheetPlace manifest root tree) := by
    intro middle result run
    exact (stylesheet_untouched accepted found (run.grows sound)).resolve_right fun ⟨absent, _⟩ => there absent
  -- once the page is written, its way is there and the stylesheet is seen
  have skipped : ∀ {middle statuses result}, Runs tree (sources manifest design items root) middle (.ok statuses) →
      Runs middle [stylesheetFile manifest root] after result → after = middle := by
    intro middle statuses result before behind
    have page : pageFile manifest design items root ∈ sources manifest design items root := by simp [sources]
    have apart := apart_plan accepted found root tree
    rw [plan_eq, List.pairwise_append] at apart
    have reached := (contains_iff.mp (before.settled sound apart.1 _ page).contains).1
    have settled : middle.IsSettled (stylesheetFile manifest root) := by
      apply contains_stylesheetFile accepted found (before.isSound sound) (mem_plan_of_sources page) reached
      rw [stylesheetPlace, Grows.destination (before.grows sound), ← stylesheetPlace, untouched before]
      exact there
    have same := behind.writeAll_eq.symm.trans (runs_of_settled (List.forall_mem_singleton.mpr settled)).writeAll_eq
    exact congrArg Prod.fst same
  rw [plan_eq] at run
  cases result with
  | ok statuses =>
    obtain ⟨middle, earlier, later, before, behind⟩ := run.split_ok
    rw [skipped before behind]
    exact untouched before
  | error failure =>
    rcases run.split_error with stopped | ⟨middle, earlier, before, behind⟩
    · exact untouched stopped
    · rw [skipped before behind]
      exact untouched before

private theorem stylesheet_new {statuses : List WriteStatus} (accepted : manifest.IsAccepted)
    (found : sections manifest design = .ok items)
    (sound : tree.IsSound) (run : Runs tree (plan manifest design items root) after (.ok statuses))
    (absent : tree.at? (stylesheetPlace manifest root tree) = none)
    (off : stylesheetPlace manifest root tree ∉ tree.way (stylesheetFile manifest root).path) :
    after.read? (stylesheetFile manifest root).path = some (stylesheetFile manifest root).content := by
  rw [plan_eq] at run
  obtain ⟨middle, earlier, later, before, behind⟩ := run.split_ok
  have grows := before.grows sound
  have still : middle.at? (stylesheetPlace manifest root tree) = none := by
    rcases stylesheet_untouched accepted found grows with same | ⟨-, passed⟩
    · exact same.trans absent
    · exact absurd passed off
  have unsettled : ¬ middle.IsSettled (stylesheetFile manifest root) := by
    intro settled
    have there := (contains_iff.mp settled.contains).2
    rw [Grows.destination grows] at there
    exact there still
  obtain ⟨status, wrote⟩ := behind.one
  exact read?_write (before.isSound sound) unsettled wrote

theorem make_false : make false manifest design root tree = generate manifest design root tree := rfl

theorem generate_ok {statuses : List WriteStatus} (found : sections manifest design = .ok items)
    (run : Runs tree (plan manifest design items root) after (.ok statuses)) :
    generate manifest design root tree = (after, .ok (generation manifest items
      (.written (((plan manifest design items root).map fun file => root.relativeTo file.path).zip statuses)))) := by
  simp only [generate, found, run.writeAll_eq]

theorem generate_error {failure : WriteFailure} (found : sections manifest design = .ok items)
    (run : Runs tree (plan manifest design items root) after (.error failure)) :
    generate manifest design root tree = (after, .error (.unwritable failure)) := by
  simp only [generate, found, run.writeAll_eq]

private theorem names_relativeTo {file : OutputFile} (accepted : manifest.IsAccepted)
    (found : sections manifest design = .ok items) (listed : file ∈ plan manifest design items root) :
    (root.join (root.relativeTo file.path)).names = file.path.names ∧
      (root.join (root.relativeTo file.path)).isAbsolute = file.path.isAbsolute := by
  obtain ⟨placement, ⟨directory, -, whole⟩, path⟩ := exists_placement accepted found listed
  have known : ∀ directory ∈ directories, directory ≠ "" ∧ Path.isAbsolute ⟨directory⟩ = false := by decide
  obtain ⟨named, relative⟩ := known _ directory
  rw [path, Placement.path, ← Path.join_inside accepted.directory_ne named relative (Path.isAbsolute_of_not_mem whole)]
  exact Path.join_relativeTo root _

/-- What making a site leaves when it succeeds: the files that a dry run shows, each with the
content shown, and nothing left to write. A stylesheet that was there is kept; one that is new has
the content shown, unless its place was one of the directories on the way to it. -/
structure Settles (manifest : Manifest) (design : Node) (items : List Section) (root : Path) (before after : FileTree)
    (made : Generation) : Prop where
  shown : make true manifest design root before = (before, .ok (generation manifest items
    (.shown ((plan manifest design items root).map fun file => (root.relativeTo file.path, file.content)))))
  written : ∃ entries, made = generation manifest items (.written entries) ∧
    entries.map Prod.fst = (plan manifest design items root).map fun file => root.relativeTo file.path
  located : ∀ file ∈ plan manifest design items root, (root.join (root.relativeTo file.path)).names = file.path.names ∧
    (root.join (root.relativeTo file.path)).isAbsolute = file.path.isAbsolute
  held : ∀ file ∈ sources manifest design items root, after.read? file.path = some file.content
  kept : before.at? (stylesheetPlace manifest root before) ≠ none →
    after.at? (stylesheetPlace manifest root before) = before.at? (stylesheetPlace manifest root before)
  added : before.at? (stylesheetPlace manifest root before) = none →
    stylesheetPlace manifest root before ∉ before.way (stylesheetFile manifest root).path →
      after.read? (stylesheetFile manifest root).path = some (stylesheetFile manifest root).content
  again : make false manifest design root after = (after, .ok (generation manifest items
    (.written ((sources manifest design items root).map (fun file => (root.relativeTo file.path, WriteStatus.unchanged)) ++
      [(root.relativeTo (stylesheetFile manifest root).path, .skipped)]))))

private theorem settles_of_runs {statuses : List WriteStatus} (accepted : manifest.IsAccepted) (sound : tree.IsSound)
    (found : sections manifest design = .ok items) (run : Runs tree (plan manifest design items root) after (.ok statuses)) :
    Settles manifest design items root tree after (generation manifest items
      (.written (((plan manifest design items root).map fun file => root.relativeTo file.path).zip statuses))) := by
  have settled := run.settled sound (apart_plan accepted found root tree)
  refine ⟨?_, ⟨_, rfl, ?_⟩, fun file listed => names_relativeTo accepted found listed, ?_, stylesheet_kept accepted found sound run,
    stylesheet_new accepted found sound run, ?_⟩
  · rw [make, if_pos rfl, preview, found]
  · apply List.map_fst_zip
    rw [List.length_map, run.length]
  · intro file listed
    have held := settled file (mem_plan_of_sources listed)
    rw [IsSettled, overwrite_of_mem_sources listed] at held
    exact held
  · rw [make_false, generate_ok found (runs_of_settled settled), List.zip_map', plan_eq, List.map_append]
    have unchanged : (sources manifest design items root).map (fun file => (root.relativeTo file.path, keptStatus file.overwrite)) =
        (sources manifest design items root).map fun file => (root.relativeTo file.path, WriteStatus.unchanged) := by
      apply List.map_congr_left
      intro file listed
      rw [overwrite_of_mem_sources listed]
      rfl
    rw [unchanged]
    rfl

/-- A dry run shows what is then made, and making it again changes nothing. -/
theorem make_settles {made : Generation} (accepted : manifest.IsAccepted) (sound : tree.IsSound)
    (done : make false manifest design root tree = (after, .ok made)) :
    ∃ items, sections manifest design = .ok items ∧ Settles manifest design items root tree after made := by
  rw [make_false] at done
  cases found : sections manifest design with
  | error missing =>
    simp only [generate, found] at done
    cases done
  | ok items =>
    have run := runs_writeAll tree (plan manifest design items root)
    cases outcome : (writeAll tree (plan manifest design items root)).2 with
    | error failure =>
      rw [outcome] at run
      rw [generate_error found run] at done
      cases done
    | ok statuses =>
      rw [outcome] at run
      rw [generate_ok found run] at done
      obtain ⟨rfl, same⟩ := Prod.mk.inj done
      rw [← Except.ok.inj same]
      exact ⟨items, rfl, settles_of_runs accepted sound found run⟩

/-- A directory with a stylesheet of its own. -/
def styledTree : FileTree := (FileTree.empty.store ⟨"generated/styles/global.css"⟩ "mine").1

private theorem isSound_styledTree : styledTree.IsSound := isSound_empty.store _ _

theorem make_settles_styled :
    ∃ after made,
      ((Manifest.brief [.react] []).IsAccepted ∧ styledTree.IsSound ∧
        make false (.brief [.react] []) (pageOf [heroFrame]) .current styledTree = (after, .ok made)) ∧
      ∃ items, sections (.brief [.react] []) (pageOf [heroFrame]) = .ok items ∧
        Settles (.brief [.react] []) (pageOf [heroFrame]) items .current styledTree after made := by
  have accepted : (Manifest.brief [.react] []).IsAccepted := by decide +kernel
  have found : sections (.brief [.react] []) (pageOf [heroFrame]) = .ok (derivedSections (pageOf [heroFrame])) := rfl
  have run := runs_writeAll styledTree (plan (.brief [.react] []) (pageOf [heroFrame]) (derivedSections (pageOf [heroFrame])) .current)
  have statuses : (writeAll styledTree (plan (.brief [.react] []) (pageOf [heroFrame]) (derivedSections (pageOf [heroFrame])) .current)).2 =
      .ok [.written, .written, .skipped] := by decide +kernel
  rw [statuses] at run
  have done := generate_ok found run
  rw [← make_false] at done
  exact ⟨_, _, ⟨accepted, isSound_styledTree, done⟩, make_settles accepted isSound_styledTree done⟩

/-- What can have become of a tree when files were written, all of them or some: no other file is
different, each of them is as it was or has all its content, and one that is made only where it is
missing was not replaced. -/
structure Confined (files : List OutputFile) (before after : FileTree) : Prop where
  outside : ∀ place, (∀ file ∈ files, before.destination file.path ≠ place) → after.fileAt? place = before.fileAt? place
  planned : ∀ file ∈ files, after.fileAt? (before.destination file.path) = before.fileAt? (before.destination file.path) ∨
    after.fileAt? (before.destination file.path) = some file.content
  kept : ∀ file ∈ files, file.overwrite = .ifMissing → before.at? (before.destination file.path) ≠ none →
    after.at? (before.destination file.path) = before.at? (before.destination file.path)
  directories : ∀ place, before.at? place = some .directory → after.at? place = some .directory

private theorem confined_of_runs (accepted : manifest.IsAccepted) (found : sections manifest design = .ok items)
    (sound : tree.IsSound)
    (run : Runs tree (plan manifest design items root) after result) : Confined (plan manifest design items root) tree after := by
  have grows := run.grows sound
  refine ⟨?_, ?_, ?_, fun place => Grows.directory grows⟩
  · intro place elsewhere
    rcases Grows.fileAt? grows place with same | ⟨content, -, file, listed, stored, -⟩
    · exact same
    · exact absurd stored (elsewhere file listed)
  · intro file listed
    rcases Grows.fileAt? grows (tree.destination file.path) with same | ⟨content, held, other, also, stored, rfl⟩
    · exact .inl same
    · have distinct : ((plan manifest design items root).map fun file => tree.destination file.path).Nodup :=
        List.pairwise_map.mpr (apart_plan accepted found root tree)
      cases List.inj_on_of_nodup_map distinct also listed stored
      exact .inr held
  · intro file listed rule there
    rw [plan_eq] at listed
    rcases List.mem_append.mp listed with source | stylesheet
    · rw [overwrite_of_mem_sources source] at rule
      cases rule
    · rw [List.mem_singleton.mp stylesheet] at there ⊢
      exact stylesheet_kept accepted found sound run there

/-- Making a site touches no other file, wherever it stops, and none at all when a section has no
layer or the run is dry. -/
theorem make_confined (accepted : manifest.IsAccepted) (sound : tree.IsSound) (design : Node) (root : Path) :
    (∀ entry, manifest.sections.find? (fun entry => entry.nodeId ∉ design.values.map Layer.id) = some entry → ∀ isDryRun,
        make isDryRun manifest design root tree = (tree, .error (.missingNode ⟨entry.name, entry.nodeId⟩))) ∧
      (make true manifest design root tree).1 = tree ∧
      (manifest.sections.find? (fun entry => entry.nodeId ∉ design.values.map Layer.id) = none → ∃ items,
        sections manifest design = .ok items ∧
          Confined (plan manifest design items root) tree (make false manifest design root tree).1 ∧
          ∀ failure, (make false manifest design root tree).2 = .error failure →
            ∃ file ∈ plan manifest design items root, failure = .unwritable ⟨file.path⟩) := by
  refine ⟨?_, rfl, ?_⟩
  · intro entry missing isDryRun
    have found := sections_missing missing
    cases isDryRun with
    | true => simp only [make, preview, found, if_true]
    | false => simp only [make, generate, found, Bool.false_eq_true, if_false]
  · intro complete
    obtain ⟨items, found⟩ := sections_found complete
    have run := runs_writeAll tree (plan manifest design items root)
    refine ⟨items, found, ?_⟩
    cases outcome : (writeAll tree (plan manifest design items root)).2 with
    | ok statuses =>
      rw [outcome] at run
      rw [make_false, generate_ok found run]
      exact ⟨confined_of_runs accepted found sound run, fun failure stopped => by cases stopped⟩
    | error failure =>
      rw [outcome] at run
      rw [make_false, generate_error found run]
      refine ⟨confined_of_runs accepted found sound run, fun other stopped => ?_⟩
      cases stopped
      obtain ⟨file, listed, rfl⟩ := run.failed sound
      exact ⟨file, listed, rfl⟩

/-- A directory in which a file is in the place of one that pages need. -/
def blockedTree : FileTree := (FileTree.empty.store ⟨"generated/pages"⟩ "mine").1

private theorem isSound_blockedTree : blockedTree.IsSound := isSound_empty.store _ _

theorem make_confined_blocked :
    ((Manifest.brief [.react] []).IsAccepted ∧ blockedTree.IsSound) ∧ ∃ items,
      sections (.brief [.react] []) (pageOf [heroFrame]) = .ok items ∧
        Confined (plan (.brief [.react] []) (pageOf [heroFrame]) items .current) blockedTree
          (make false (.brief [.react] []) (pageOf [heroFrame]) .current blockedTree).1 ∧
        ∀ failure, (make false (.brief [.react] []) (pageOf [heroFrame]) .current blockedTree).2 = .error failure →
          ∃ file ∈ plan (.brief [.react] []) (pageOf [heroFrame]) items .current, failure = .unwritable ⟨file.path⟩ := by
  have accepted : (Manifest.brief [.react] []).IsAccepted := by decide +kernel
  obtain ⟨-, -, confined⟩ := make_confined accepted isSound_blockedTree (pageOf [heroFrame]) .current
  exact ⟨⟨accepted, isSound_blockedTree⟩, confined rfl⟩

end Sites

end Handoff.Site
