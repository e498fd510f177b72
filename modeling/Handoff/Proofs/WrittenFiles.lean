import Handoff.Proofs.FileWriting

/-! Files written one after the other, each by its rule and whatever became of those before it.
What a file holds in the end was put there by the last attempt that wrote it, or was there from
the start. A file that must not be replaced is safe if it can be seen before the directories on
the way to it are made; behind one that is missing it cannot. -/

namespace Handoff

namespace FileTree

section

variable {tree before after : FileTree} {location place stop : Location} {content : String} {segments : List String} {path : Path}

/-- A path that can be followed and ends in the name of a file. -/
structure IsNameable (path : Path) : Prop where
  passable : isPassable path.segments = true
  passages : ∀ segment ∈ path.segments, IsPassage segment
  last : ∃ name, path.segments.getLast? = some name ∧ isName name = true

/-- What keeps a file from being put where a path leads. -/
inductive Obstructed (tree : FileTree) (path : Path) : Prop
  | unnamed (strange : ¬ IsNameable path)
  | parent (place : Location) (content : String) (passed : place ∈ tree.way path) (there : tree.at? place = some (.file content))
  | directory (there : tree.at? (tree.destination path) = some .directory)
  /-- The path leads through the place where it ends, and there has to be a directory then. -/
  | inside (passed : tree.destination path ∈ tree.way path)

/-- A file to which a path leads only after a directory on its way was made. -/
structure IsHidden (tree : FileTree) (path : Path) (old : String) : Prop where
  missing : ∃ stop ∈ tree.way path, tree.at? stop = none
  there : tree.fileAt? (tree.destination path) = some old

/-- A directory is entered if nothing but names leads there and no file is on the way. -/
theorem enter_arrives (passages : ∀ segment ∈ segments, IsPassage segment)
    (clear : ∀ stop ∈ segments.scanl descend location, ∀ content, tree.at? stop ≠ some (.file content)) :
    ∃ last, (tree.enter location segments).2 = some last := by
  induction segments generalizing tree location with
  | nil => exact ⟨location, rfl⟩
  | cons segment rest ih =>
    obtain ⟨passage, later⟩ := List.forall_mem_cons.mp passages
    rw [List.scanl_cons] at clear
    have ahead := (List.forall_mem_cons.mp clear).2
    rw [enter]
    split
    next idle =>
      rw [descend_idle idle] at ahead
      exact ih later ahead
    next visible =>
      split
      next out =>
        rw [descend, if_neg visible, if_pos out] at ahead
        exact ih later ahead
      next inward =>
        have named : isName segment = true := (passage.resolve_left visible).resolve_left inward
        rw [descend, if_neg visible, if_neg inward] at ahead
        split
        next => exact ih later ahead
        next content there => exact absurd there (ahead _ (start_mem_scanl rest _) content)
        next =>
          rw [if_pos named]
          -- the directory that is made is no file either
          apply ih later
          intro stop member content
          rw [at?_put (by simp)]
          split
          · simp
          · exact ahead stop member content

private theorem isNameable_of_read? (sound : tree.IsSound) (held : tree.read? path = some content) : IsNameable path := by
  obtain ⟨reached, there⟩ := read?_eq_some_iff.mp held
  have whole := List.dropLast_append_getLast path.segments_ne_nil
  have last := List.getLast?_eq_some_getLast path.segments_ne_nil
  have passage := reached.passages _ (List.getLast_mem path.segments_ne_nil)
  generalize path.segments.getLast path.segments_ne_nil = name at whole last passage
  have inside := reached.directories _ (foldl_mem_scanl path.segments.dropLast (tree.start path))
  have destination : tree.destination path = descend (path.segments.dropLast.foldl descend (tree.start path)) name := by
    rw [FileTree.destination, ← whole, List.foldl_append, List.dropLast_concat]
    rfl
  refine ⟨reached.passable, reached.passages, name, last, ?_⟩
  rcases passage with idle | out | named
  · rw [destination, descend_idle idle, inside] at there
    cases there
  · subst out
    rw [destination, descend, if_neg (by decide), if_pos rfl, sound.dropLast inside] at there
    cases there
  · exact named

private theorem not_obstructed_of_store (sound : tree.IsSound) (wrote : tree.store path content = (after, .ok .written)) :
    ¬ tree.Obstructed path := by
  have stores := stores_store sound path content
  rw [wrote] at stores
  obtain ⟨afterwards, grows, held⟩ := stores
  obtain ⟨reached, there⟩ := read?_eq_some_iff.mp held
  have directories := reached.directories
  rw [grows.way] at directories
  rw [grows.destination] at there
  rintro (strange | ⟨place, text, passed, blocked⟩ | directory | passed)
  · exact strange (isNameable_of_read? afterwards held)
  · -- a file stays a file, and the way is one of directories
    have inside := directories place passed
    rcases grows.change place with same | ⟨absent, -⟩ | ⟨-, other, new, -⟩
    · rw [same, blocked] at inside
      cases inside
    · rw [blocked] at absent
      cases absent
    · rw [new] at inside
      cases inside
  · rw [grows.directory directory] at there
    cases there
  · rw [directories _ passed] at there
    cases there

theorem isNameable_of_clear (clear : ¬ tree.Obstructed path) : IsNameable path := by
  by_contra strange
  exact clear (.unnamed strange)

private theorem exists_store (sound : tree.IsSound) (clear : ¬ tree.Obstructed path) (content : String) :
    ∃ after, tree.store path content = (after, .ok .written) := by
  have nameable := isNameable_of_clear clear
  obtain ⟨name, last, named⟩ := nameable.last
  have member := List.mem_of_getLast? last
  obtain ⟨rest, parents, -⟩ := path.exists_parents
  have listed : ∀ segment ∈ path.parents, segment ∈ path.segments := by
    intro segment inner
    apply List.dropLast_subset
    rw [parents]
    exact List.mem_append_left rest inner
  have passable := List.all_eq_true.mp nameable.passable
  obtain ⟨location, arrived⟩ : ∃ location, (tree.enter (tree.start path) path.parents).2 = some location := by
    apply enter_arrives fun segment inner => nameable.passages segment (listed segment inner)
    intro stop passed text there
    exact clear (.parent stop text (mem_way_of_parents passed) there)
  have entered := entered_enter sound (sound.start path) path.parents
  have destination : tree.destination path = location ++ [name] := by
    rw [destination_of_parents last named, (entered.arrived location arrived).1]
  have free : (tree.enter (tree.start path) path.parents).1.at? (location ++ [name]) ≠ some .directory := by
    rw [← destination]
    intro there
    rcases entered.grows.change (tree.destination path) with same | ⟨-, -, made⟩ | ⟨-, text, -, none⟩
    · exact clear (.directory (same.symm.trans there))
    · exact clear (.inside (mem_way_of_parents made))
    · exact none
  have parentsPassable : isPassable path.parents = true :=
    List.all_eq_true.mpr fun segment inner => passable segment (listed segment inner)
  have clean : isPassable [name] = true := List.all_eq_true.mpr (List.forall_mem_singleton.mpr (passable name member))
  unfold store createParents
  rw [if_pos parentsPassable]
  generalize tree.enter (tree.start path) path.parents = result at arrived free
  obtain ⟨middle, reached⟩ := result
  cases arrived
  simp only [last, named, clean, Bool.and_self, if_true]
  exact ⟨_, rfl⟩

/-- A path without a segment that leads out only leads inward. -/
theorem prefix_of_scanl (inward : ".." ∉ segments) (passed : stop ∈ segments.scanl descend location) :
    stop <+: segments.foldl descend location := by
  induction segments generalizing location stop with
  | nil =>
    rw [List.scanl_nil, List.mem_singleton] at passed
    exact passed ▸ List.prefix_rfl
  | cons segment rest ih =>
    obtain ⟨here, later⟩ := not_or.mp (mt List.mem_cons.mpr inward)
    rw [List.scanl_cons, List.mem_cons] at passed
    rw [List.foldl_cons]
    rcases passed with rfl | passed
    · have deeper : stop <+: descend stop segment := by
        rw [descend, if_neg (Ne.symm here)]
        split
        · exact List.prefix_rfl
        · exact List.prefix_append stop [segment]
      exact deeper.trans (ih later (start_mem_scanl rest _))
    · exact ih later passed

private theorem IsSound.present_of_prefix (sound : tree.IsSound) (outer : stop <+: place) (there : tree.at? place ≠ none) :
    tree.at? stop ≠ none := by
  obtain ⟨inner, rfl⟩ := outer
  induction inner using List.reverseRecOn with
  | nil => simpa using there
  | append_singleton inner name ih =>
    apply ih
    rw [sound.inside (stop ++ inner) name (by simpa using there)]
    simp

/-- Only a path that leads out somewhere leads to a file that is hidden from it. -/
theorem IsHidden.outward {old : String} (hidden : tree.IsHidden path old) (sound : tree.IsSound) : ".." ∈ path.segments := by
  obtain ⟨⟨stop, passed, absent⟩, there⟩ := hidden
  by_contra inward
  have whole := List.dropLast_append_getLast path.segments_ne_nil
  have outer : stop <+: tree.destination path := by
    apply prefix_of_scanl inward
    rw [← whole, List.scanl_append]
    exact List.mem_append_left _ passed
  exact sound.present_of_prefix outer (by simp [fileAt?_eq_some_iff.mp there]) absent

theorem store_of_clear (sound : tree.IsSound) (clear : ¬ tree.Obstructed path) (content : String) :
    (tree.store path content).2 = .ok .written ∧ (tree.store path content).1.read? path = some content ∧
      ∀ place, place ≠ tree.destination path → (tree.store path content).1.fileAt? place = tree.fileAt? place := by
  have stores := stores_store sound path content
  obtain ⟨after, wrote⟩ := exists_store sound clear content
  rw [wrote] at stores ⊢
  obtain ⟨-, grows, held⟩ := stores
  refine ⟨rfl, held, fun place other => grows.fileAt?_eq ?_⟩
  rintro text ⟨same, -⟩
  exact other same.symm

theorem store_of_obstructed (sound : tree.IsSound) (obstructed : tree.Obstructed path) (content : String) :
    (tree.store path content).2 = .error ⟨path⟩ ∧ ∀ place, (tree.store path content).1.fileAt? place = tree.fileAt? place := by
  have stores := stores_store sound path content
  cases outcome : tree.store path content with
  | mk after result =>
    rw [outcome] at stores
    cases stores with
    | written => exact absurd obstructed (not_obstructed_of_store sound outcome)
    | refused _ grows => exact ⟨rfl, fun place => grows.fileAt?_eq fun _ => id⟩

/-- What cannot be seen where a path leads, though it is there, is behind a directory that is missing. -/
theorem isHidden_iff {old : String} (clear : ¬ tree.Obstructed path) :
    tree.IsHidden path old ↔ tree.contains path = false ∧ tree.fileAt? (tree.destination path) = some old := by
  constructor
  · rintro ⟨⟨stop, passed, absent⟩, there⟩
    refine ⟨Bool.eq_false_iff.mpr fun seen => ?_, there⟩
    rw [(contains_iff.mp seen).1.directories stop passed] at absent
    cases absent
  · rintro ⟨unseen, there⟩
    refine ⟨?_, there⟩
    by_contra missing
    push Not at missing
    rw [Bool.eq_false_iff, ne_eq, contains_iff] at unseen
    have nameable := isNameable_of_clear clear
    refine unseen ⟨⟨nameable.passable, nameable.passages, fun stop passed => ?_⟩, by simp [fileAt?_eq_some_iff.mp there]⟩
    cases found : tree.at? stop with
    | none => exact absurd found (missing stop passed)
    | some entry =>
      cases entry with
      | directory => rfl
      | file text => exact absurd (.parent stop text passed found) clear

end

/-- A file that is to be written, and the tree as it is by then. -/
structure Attempt where
  before : FileTree
  file : OutputFile

namespace Attempt

def result (attempt : Attempt) : Except WriteFailure WriteStatus := (attempt.before.write attempt.file).2

def after (attempt : Attempt) : FileTree := (attempt.before.write attempt.file).1

def place (attempt : Attempt) : Location := attempt.before.destination attempt.file.path

/-- What the attempt put at a place. -/
def stored? (attempt : Attempt) (place : Location) : Option String :=
  if attempt.result = .ok .written ∧ attempt.place = place then some attempt.file.content else none

/-- Some file that was there is not what it was. -/
def Replaces (attempt : Attempt) : Prop :=
  ∃ place old, attempt.before.fileAt? place = some old ∧ attempt.after.fileAt? place ≠ some old

/-- What the rule of a file makes of it. -/
structure Follows (attempt : Attempt) : Prop where
  skipped : attempt.result = .ok .skipped ↔
    attempt.file.overwrite = .ifMissing ∧ attempt.before.contains attempt.file.path = true
  unchanged : attempt.result = .ok .unchanged ↔
    attempt.file.overwrite = .always ∧ attempt.before.read? attempt.file.path = some attempt.file.content
  written : attempt.result = .ok .written ↔
    ¬ attempt.before.IsSettled attempt.file ∧ ¬ attempt.before.Obstructed attempt.file.path
  failed : attempt.result = .error ⟨attempt.file.path⟩ ↔
    ¬ attempt.before.IsSettled attempt.file ∧ attempt.before.Obstructed attempt.file.path
  held : attempt.result = .ok .written → attempt.after.read? attempt.file.path = some attempt.file.content
  others : attempt.result = .ok .written → ∀ place, place ≠ attempt.place → attempt.after.fileAt? place = attempt.before.fileAt? place
  kept : attempt.result ≠ .ok .written → ∀ place, attempt.after.fileAt? place = attempt.before.fileAt? place
  replaces : attempt.file.overwrite = .ifMissing → (attempt.Replaces ↔
    ¬ attempt.before.Obstructed attempt.file.path ∧ ∃ old, old ≠ attempt.file.content ∧ attempt.before.IsHidden attempt.file.path old)
  outward : attempt.file.overwrite = .ifMissing → attempt.Replaces → ".." ∈ attempt.file.path.segments

variable {attempt : Attempt}

open Classical in
theorem result_eq (sound : attempt.before.IsSound) :
    attempt.result =
      if attempt.before.IsSettled attempt.file then .ok (keptStatus attempt.file.overwrite)
      else if attempt.before.Obstructed attempt.file.path then .error ⟨attempt.file.path⟩
      else .ok .written := by
  unfold result
  split
  next settled => rw [write_of_settled settled]
  next unsettled =>
    rw [write_of_unsettled unsettled]
    split
    next obstructed => exact (store_of_obstructed sound obstructed _).1
    next clear => exact (store_of_clear sound clear _).1

theorem written_iff (sound : attempt.before.IsSound) :
    attempt.result = .ok .written ↔
      ¬ attempt.before.IsSettled attempt.file ∧ ¬ attempt.before.Obstructed attempt.file.path := by
  rw [result_eq sound]
  split_ifs with settled obstructed
  · cases rule : attempt.file.overwrite <;> simp [keptStatus, settled]
  · simp [obstructed]
  · simp [settled, obstructed]

private theorem failed_iff (sound : attempt.before.IsSound) :
    attempt.result = .error ⟨attempt.file.path⟩ ↔
      ¬ attempt.before.IsSettled attempt.file ∧ attempt.before.Obstructed attempt.file.path := by
  rw [result_eq sound]
  split_ifs with settled obstructed
  · simp [settled]
  · simp [settled, obstructed]
  · simp [obstructed]

private theorem skipped_iff (sound : attempt.before.IsSound) :
    attempt.result = .ok .skipped ↔ attempt.file.overwrite = .ifMissing ∧ attempt.before.contains attempt.file.path = true := by
  rw [result_eq sound]
  cases rule : attempt.file.overwrite with
  | always => split_ifs <;> simp [keptStatus]
  | ifMissing => split_ifs with settled <;> simpa [IsSettled, rule, keptStatus] using settled

private theorem unchanged_iff (sound : attempt.before.IsSound) :
    attempt.result = .ok .unchanged ↔
      attempt.file.overwrite = .always ∧ attempt.before.read? attempt.file.path = some attempt.file.content := by
  rw [result_eq sound]
  cases rule : attempt.file.overwrite with
  | always => split_ifs with settled <;> simpa [IsSettled, rule, keptStatus] using settled
  | ifMissing => split_ifs <;> simp [keptStatus]

/-- A file that was written has its content, and nothing else is different. -/
theorem after_of_written (sound : attempt.before.IsSound) (written : attempt.result = .ok .written) :
    attempt.after.read? attempt.file.path = some attempt.file.content ∧
      ∀ place, place ≠ attempt.place → attempt.after.fileAt? place = attempt.before.fileAt? place := by
  obtain ⟨unsettled, clear⟩ := (written_iff sound).mp written
  rw [after, write_of_unsettled unsettled]
  exact (store_of_clear sound clear _).2

theorem after_of_not_written (sound : attempt.before.IsSound) (kept : attempt.result ≠ .ok .written) (place : Location) :
    attempt.after.fileAt? place = attempt.before.fileAt? place := by
  by_cases settled : attempt.before.IsSettled attempt.file
  · rw [after, write_of_settled settled]
  · have obstructed : attempt.before.Obstructed attempt.file.path := by
      by_contra clear
      exact kept ((written_iff sound).mpr ⟨settled, clear⟩)
    rw [after, write_of_unsettled settled]
    exact (store_of_obstructed sound obstructed _).2 place

theorem fileAt?_of_written (sound : attempt.before.IsSound) (written : attempt.result = .ok .written) :
    attempt.after.fileAt? attempt.place = some attempt.file.content := by
  have same : attempt.after.destination attempt.file.path = attempt.place := (grows_write sound rfl).2.destination attempt.file.path
  rw [fileAt?_eq_some_iff, ← same]
  exact (read?_eq_some_iff.mp (after_of_written sound written).1).2

private theorem fileAt?_after (sound : attempt.before.IsSound) (place : Location) :
    attempt.after.fileAt? place = (attempt.stored? place).or (attempt.before.fileAt? place) := by
  unfold stored?
  split
  next stored =>
    obtain ⟨written, rfl⟩ := stored
    exact fileAt?_of_written sound written
  next other =>
    rw [Option.none_or]
    by_cases written : attempt.result = .ok .written
    · exact (after_of_written sound written).2 place fun same => other ⟨written, same.symm⟩
    · exact after_of_not_written sound written place

private theorem replaces_iff (sound : attempt.before.IsSound) :
    attempt.Replaces ↔ attempt.result = .ok .written ∧
      ∃ old, old ≠ attempt.file.content ∧ attempt.before.fileAt? attempt.place = some old := by
  constructor
  · rintro ⟨place, old, there, gone⟩
    have written : attempt.result = .ok .written := by
      by_contra kept
      exact gone ((after_of_not_written sound kept place).trans there)
    have same : place = attempt.place := by
      by_contra other
      exact gone (((after_of_written sound written).2 place other).trans there)
    subst same
    rw [fileAt?_of_written sound written] at gone
    exact ⟨written, old, fun equal => gone (congrArg some equal.symm), there⟩
  · rintro ⟨written, old, different, there⟩
    refine ⟨attempt.place, old, there, ?_⟩
    rw [fileAt?_of_written sound written]
    exact fun equal => different (Option.some_inj.mp equal).symm

private theorem ifMissing_replaces_iff (sound : attempt.before.IsSound) (rule : attempt.file.overwrite = .ifMissing) :
    attempt.Replaces ↔ ¬ attempt.before.Obstructed attempt.file.path ∧
      ∃ old, old ≠ attempt.file.content ∧ attempt.before.IsHidden attempt.file.path old := by
  have unsettled : ¬ attempt.before.IsSettled attempt.file ↔ attempt.before.contains attempt.file.path = false := by
    simp [IsSettled, rule]
  rw [replaces_iff sound, written_iff sound, unsettled]
  constructor
  · rintro ⟨⟨unseen, clear⟩, old, different, there⟩
    exact ⟨clear, old, different, (isHidden_iff clear).mpr ⟨unseen, there⟩⟩
  · rintro ⟨clear, old, different, hidden⟩
    obtain ⟨unseen, there⟩ := (isHidden_iff clear).mp hidden
    exact ⟨⟨unseen, clear⟩, old, different, there⟩

private theorem follows (sound : attempt.before.IsSound) : attempt.Follows where
  skipped := skipped_iff sound
  unchanged := unchanged_iff sound
  written := written_iff sound
  failed := failed_iff sound
  held := fun written => (after_of_written sound written).1
  others := fun written => (after_of_written sound written).2
  kept := after_of_not_written sound
  replaces := ifMissing_replaces_iff sound
  outward := by
    intro rule replaces
    obtain ⟨-, old, -, hidden⟩ := (ifMissing_replaces_iff sound rule).mp replaces
    exact hidden.outward sound

end Attempt

/-- Files written one after the other, each into the tree that is left by those before. -/
def attempts (tree : FileTree) : List OutputFile → List Attempt
  | [] => []
  | file :: rest => ⟨tree, file⟩ :: (tree.write file).1.attempts rest

/-- The tree after all files were to be written, whatever became of each. -/
def writeEach (tree : FileTree) (files : List OutputFile) : FileTree := files.foldl (fun tree file => (tree.write file).1) tree

theorem IsSound.write {tree : FileTree} (sound : tree.IsSound) (file : OutputFile) : (tree.write file).1.IsSound :=
  (grows_write sound rfl).1

private theorem follows_attempts {tree : FileTree} (sound : tree.IsSound) (files : List OutputFile) :
    ∀ attempt ∈ tree.attempts files, attempt.Follows := by
  induction files generalizing tree with
  | nil => exact List.forall_mem_nil _
  | cons file rest ih => exact List.forall_mem_cons.mpr ⟨Attempt.follows sound, ih (sound.write file)⟩

/-- What was there at first is left where nothing was written. -/
theorem fileAt?_writeEach {tree : FileTree} (sound : tree.IsSound) (files : List OutputFile) (place : Location) :
    (tree.writeEach files).fileAt? place = ((tree.attempts files).filterMap (·.stored? place)).getLast?.or (tree.fileAt? place) := by
  induction files generalizing tree with
  | nil => rfl
  | cons file rest ih =>
    have here : (tree.write file).1.fileAt? place = (Attempt.stored? ⟨tree, file⟩ place).or (tree.fileAt? place) :=
      @Attempt.fileAt?_after ⟨tree, file⟩ sound place
    have later := ih (sound.write file)
    rw [here] at later
    rw [attempts, List.filterMap_cons]
    -- what was stored here is covered by whatever is stored later
    cases stored : Attempt.stored? ⟨tree, file⟩ place with
    | none => rwa [stored, Option.none_or] at later
    | some content =>
      rw [stored, Option.some_or] at later
      rw [List.getLast?_cons, Option.some_or]
      refine Eq.trans later ?_
      cases List.getLast? _ <;> rfl

/-- Each file is written by its rule, and a file holds in the end what the last attempt to write it put there. -/
theorem attempts_follow {tree : FileTree} (sound : tree.IsSound) (files : List OutputFile) :
    (∀ attempt ∈ tree.attempts files, attempt.Follows) ∧
      ∀ place, (tree.writeEach files).fileAt? place =
        ((tree.attempts files).filterMap (·.stored? place)).getLast?.or (tree.fileAt? place) :=
  ⟨follows_attempts sound files, fileAt?_writeEach sound files⟩

/-- Files in each other's way, among them one that is kept, one that is met again and one that is
replaced from behind a directory that is missing. -/
def mixedFiles : List OutputFile :=
  [⟨⟨"site.css"⟩, "by hand", .ifMissing⟩, ⟨⟨"site.css"⟩, "made", .ifMissing⟩, ⟨⟨"site.css/index.html"⟩, "home", .always⟩,
    ⟨⟨"pages/index.html"⟩, "home", .always⟩, ⟨⟨"pages"⟩, "home", .always⟩, ⟨⟨"pages/./index.html"⟩, "home", .always⟩,
    ⟨⟨"new/../site.css"⟩, "made", .ifMissing⟩]

theorem attempts_follow_mixed :
    empty.IsSound ∧
      ((empty.attempts mixedFiles).map (·.result) =
        [.ok .written, .ok .skipped, .error ⟨⟨"site.css/index.html"⟩⟩, .ok .written, .error ⟨⟨"pages"⟩⟩, .ok .unchanged, .ok .written] ∧
      (∀ attempt ∈ empty.attempts mixedFiles, attempt.Follows) ∧
      ∀ place, (empty.writeEach mixedFiles).fileAt? place =
        ((empty.attempts mixedFiles).filterMap (·.stored? place)).getLast?.or (empty.fileAt? place)) :=
  ⟨isSound_empty, by decide, attempts_follow isSound_empty mixedFiles⟩

/-- A file that must not be replaced is replaced all the same. -/
theorem replaces_behind_missing :
    ∃ attempt ∈ empty.attempts [⟨⟨"site.css"⟩, "by hand", .always⟩, ⟨⟨"new/../site.css"⟩, "made", .ifMissing⟩],
      attempt.file.overwrite = .ifMissing ∧ attempt.result = .ok .written ∧
        attempt.before.fileAt? ["site.css"] = some "by hand" ∧ attempt.after.fileAt? ["site.css"] = some "made" := by
  refine ⟨_, List.mem_cons_of_mem _ List.mem_cons_self, rfl, ?_⟩
  decide

end FileTree

end Handoff
