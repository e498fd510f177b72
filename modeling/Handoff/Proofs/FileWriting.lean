import Handoff.Proofs.FileLocations

/-! Writing into a tree of files. Whatever becomes of it, writing makes directories on the way of
a path and changes nothing else but the file that the path leads to. -/

namespace Handoff

namespace Path

private theorem exists_dropIdle (segments : List String) :
    ∃ idle, segments = idle ++ dropIdle segments ∧ ∀ segment ∈ idle, isIdle segment = true := by
  fun_induction dropIdle segments with
  | case1 segment next rest silent ih =>
    obtain ⟨idle, split, all⟩ := ih
    exact ⟨segment :: idle, congrArg (segment :: ·) split, List.forall_mem_cons.mpr ⟨silent, all⟩⟩
  | case2 => exact ⟨[], rfl, List.forall_mem_nil _⟩
  | case3 => exact ⟨[], rfl, List.forall_mem_nil _⟩

/-- The directory of a path is what is before its last segment; if that is a name, nothing but
idle segments is left out. -/
theorem exists_parents (path : Path) :
    ∃ rest, path.segments.dropLast = path.parents ++ rest ∧
      ∀ name, path.segments.getLast? = some name → isIdle name = false → ∀ segment ∈ rest, isIdle segment = true := by
  obtain ⟨last, before, whole⟩ := List.exists_cons_of_ne_nil (l := path.segments.reverse) (by simp [path.segments_ne_nil])
  have segments : path.segments = before.reverse ++ [last] := by
    rw [← List.reverse_inj, whole]
    simp
  rw [parents, whole, segments, List.dropLast_concat, List.getLast?_concat]
  cases idle : isIdle last with
  | false =>
    obtain ⟨silent, split, all⟩ := exists_dropIdle before
    rw [List.dropWhile_cons_of_neg (by simp [idle]), List.drop_one, List.tail_cons]
    refine ⟨silent.reverse, ?_, fun name same visible segment member => all segment (List.mem_reverse.mp member)⟩
    rw [← List.reverse_append, ← split]
  | true =>
    rw [List.dropWhile_cons_of_pos idle]
    obtain ⟨silent, split, -⟩ := exists_dropIdle ((before.dropWhile isIdle).drop 1)
    obtain ⟨front, suffix⟩ := (List.drop_suffix 1 _).trans (List.dropWhile_suffix (l := before) isIdle)
    refine ⟨(front ++ silent).reverse, ?_, fun name same visible => ?_⟩
    · rw [← List.reverse_append, List.append_assoc, ← split, suffix]
    · cases same
      rw [idle] at visible
      cases visible

end Path

namespace FileTree

variable {tree before middle after : FileTree} {location place : Location} {segment name content : String}
  {segments : List String} {path : Path} {file : OutputFile}

/-- A tree as it can be on a disk: whatever is in it is in a directory, under a name that it can have. -/
structure IsSound (tree : FileTree) : Prop where
  current : tree.at? tree.current = some .directory
  inside : ∀ location name, tree.at? (location ++ [name]) ≠ none → tree.at? location = some .directory
  named : ∀ location name, tree.at? (location ++ [name]) ≠ none → isName name = true

theorem isSound_empty : empty.IsSound := by
  have nothing : ∀ location name, empty.at? (location ++ [name]) = none := by
    intro location name
    simp [at?, empty, OrderedMap.empty, OrderedMap.get?]
  refine ⟨rfl, ?_, ?_⟩
  all_goals
    intro location name there
    exact absurd (nothing location name) there

theorem IsSound.start (sound : tree.IsSound) (path : Path) : tree.at? (tree.start path) = some .directory := by
  unfold FileTree.start
  split
  · rfl
  · exact sound.current

theorem IsSound.dropLast (sound : tree.IsSound) (inside : tree.at? location = some .directory) :
    tree.at? location.dropLast = some .directory := by
  cases location using List.reverseRecOn with
  | nil => rfl
  | append_singleton outer name =>
    rw [List.dropLast_concat]
    exact sound.inside outer name (by simp [inside])

theorem IsSound.put (sound : tree.IsSound) (inside : tree.at? location = some .directory) (named : isName name = true)
    (free : tree.at? (location ++ [name]) ≠ some .directory) (entry : Entry) : (tree.put (location ++ [name]) entry).IsSound := by
  have put := @at?_put tree (location ++ [name]) (by simp) entry
  -- a directory stays one, since none was replaced
  have kept : ∀ other, tree.at? other = some .directory → (tree.put (location ++ [name]) entry).at? other = some .directory := by
    intro other directory
    rw [put, if_neg]
    · exact directory
    · rintro rfl
      exact free directory
  refine ⟨kept _ sound.current, fun other last there => ?_, fun other last there => ?_⟩
  · rw [put] at there
    split at there
    next same =>
      obtain ⟨rfl, -⟩ := List.append_inj' same rfl
      exact kept _ inside
    next => exact kept _ (sound.inside other last there)
  · rw [put] at there
    split at there
    next same =>
      cases List.singleton_inj.mp (List.append_inj' same rfl).2
      exact named
    next => exact sound.named other last there

/-- What becomes different by writing: there are new directories at some places, and files with
some contents at others. -/
structure Grows (made : Location → Prop) (stored : Location → String → Prop) (before after : FileTree) : Prop where
  current : after.current = before.current
  change : ∀ place, after.at? place = before.at? place ∨
    (before.at? place = none ∧ after.at? place = some .directory ∧ made place) ∨
    (before.at? place ≠ some .directory ∧ ∃ content, after.at? place = some (.file content) ∧ stored place content)

/-- The content of the regular file at a location. -/
def fileAt? (tree : FileTree) (location : Location) : Option String :=
  match tree.at? location with
  | some (.file content) => some content
  | _ => none

theorem fileAt?_eq_some_iff : tree.fileAt? place = some content ↔ tree.at? place = some (.file content) := by
  unfold fileAt?
  split
  next held there => simp [there]
  next other => simpa using other content

namespace Grows

variable {made wider : Location → Prop} {stored looser : Location → String → Prop}

theorem refl (tree : FileTree) : Grows made stored tree tree := ⟨rfl, fun _ => .inl rfl⟩

theorem directory (grows : Grows made stored before after) (there : before.at? place = some .directory) :
    after.at? place = some .directory := by
  rcases grows.change place with same | ⟨absent, -⟩ | ⟨free, -⟩
  · exact same.trans there
  · simp [there] at absent
  · exact absurd there free

private theorem present (grows : Grows made stored before after) (there : before.at? place ≠ none) : after.at? place ≠ none := by
  rcases grows.change place with same | ⟨absent, -⟩ | ⟨-, content, held, -⟩
  · rwa [same]
  · exact absurd absent there
  · simp [held]

theorem trans (first : Grows made stored before middle) (second : Grows made stored middle after) : Grows made stored before after := by
  refine ⟨second.current.trans first.current, fun place => ?_⟩
  rcases second.change place with same | ⟨absent, directory, new⟩ | ⟨free, content, held, new⟩
  · rw [same]
    exact first.change place
  · rcases first.change place with same | ⟨-, there, -⟩ | ⟨-, content, there, -⟩
    · exact .inr (.inl ⟨same ▸ absent, directory, new⟩)
    · simp [there] at absent
    · simp [there] at absent
  · refine .inr (.inr ⟨fun there => free (first.directory there), content, held, new⟩)

theorem fileAt? (grows : Grows made stored before after) (place : Location) :
    after.fileAt? place = before.fileAt? place ∨ ∃ content, after.fileAt? place = some content ∧ stored place content := by
  unfold FileTree.fileAt?
  rcases grows.change place with same | ⟨absent, directory, -⟩ | ⟨-, content, held, new⟩
  · exact .inl (by rw [same])
  · exact .inl (by rw [absent, directory])
  · exact .inr ⟨content, by rw [held], new⟩

theorem fileAt?_eq (grows : Grows made stored before after) (other : ∀ text, ¬ stored place text) :
    after.fileAt? place = before.fileAt? place := by
  rcases grows.fileAt? place with same | ⟨text, -, new⟩
  · exact same
  · exact absurd new (other text)

theorem mono (grows : Grows made stored before after) (more : ∀ place, made place → wider place)
    (also : ∀ place content, stored place content → looser place content) : Grows wider looser before after := by
  refine ⟨grows.current, fun place => ?_⟩
  rcases grows.change place with same | ⟨absent, directory, new⟩ | ⟨free, content, held, new⟩
  · exact .inl same
  · exact .inr (.inl ⟨absent, directory, more place new⟩)
  · exact .inr (.inr ⟨free, content, held, also place content new⟩)

private theorem put_directory (nonempty : place ≠ []) (absent : tree.at? place = none) (new : made place) :
    Grows made stored tree (tree.put place .directory) := by
  refine ⟨rfl, fun other => ?_⟩
  rw [at?_put nonempty]
  split
  next same => exact .inr (.inl ⟨same ▸ absent, rfl, same ▸ new⟩)
  next => exact .inl rfl

private theorem put_file (nonempty : place ≠ []) (free : tree.at? place ≠ some .directory) (new : stored place content) :
    Grows made stored tree (tree.put place (.file content)) := by
  refine ⟨rfl, fun other => ?_⟩
  rw [at?_put nonempty]
  split
  next same => exact .inr (.inr ⟨same ▸ free, content, rfl, same ▸ new⟩)
  next => exact .inl rfl

theorem start (grows : Grows made stored before after) (path : Path) : after.start path = before.start path := by
  rw [FileTree.start, FileTree.start, grows.current]

theorem destination (grows : Grows made stored before after) (path : Path) : after.destination path = before.destination path := by
  rw [FileTree.destination, FileTree.destination, grows.start]

theorem way (grows : Grows made stored before after) (path : Path) : after.way path = before.way path := by
  rw [FileTree.way, FileTree.way, grows.start]

theorem reaches (grows : Grows made stored before after) (reached : before.Reaches path) : after.Reaches path := by
  refine ⟨reached.passable, reached.passages, fun stop member => ?_⟩
  rw [grows.way] at member
  exact grows.directory (reached.directories stop member)

private theorem contains (grows : Grows made stored before after) (there : before.contains path = true) :
    after.contains path = true := by
  rw [contains_iff] at there ⊢
  refine ⟨grows.reaches there.1, ?_⟩
  rw [grows.destination]
  exact grows.present there.2

/-- A file is read as before if nothing was stored in its place. -/
theorem read? (grows : Grows made stored before after) (held : before.read? path = some content)
    (other : ∀ text, ¬ stored (before.destination path) text) : after.read? path = some content := by
  rw [read?_eq_some_iff] at held ⊢
  refine ⟨grows.reaches held.1, ?_⟩
  rw [grows.destination]
  rcases grows.change (before.destination path) with same | ⟨absent, -⟩ | ⟨-, text, -, new⟩
  · exact same.trans held.2
  · rw [held.2] at absent
    cases absent
  · exact absurd new (other text)

end Grows

/-- What comes of entering a directory by a list of segments. -/
structure Entered (tree : FileTree) (location : Location) (segments : List String) (result : FileTree × Option Location) : Prop where
  sound : result.1.IsSound
  grows : Grows (· ∈ segments.scanl descend location) (fun _ _ => False) tree result.1
  arrived : ∀ last, result.2 = some last → last = segments.foldl descend location ∧
    (∀ segment ∈ segments, IsPassage segment) ∧ ∀ stop ∈ segments.scanl descend location, result.1.at? stop = some .directory

theorem Entered.blocked (sound : tree.IsSound) : Entered tree location segments (tree, none) :=
  ⟨sound, .refl tree, fun _ none => by cases none⟩

private theorem Entered.cons {result : FileTree × Option Location} (inside : tree.at? location = some .directory)
    (passage : IsPassage segment)
    (first : Grows (· ∈ (segment :: segments).scanl descend location) (fun _ _ => False) tree middle)
    (rest : Entered middle (descend location segment) segments result) : Entered tree location (segment :: segments) result := by
  have later : ∀ stop ∈ segments.scanl descend (descend location segment), stop ∈ (segment :: segments).scanl descend location := by
    intro stop member
    rw [List.scanl_cons]
    exact List.mem_cons_of_mem _ member
  refine ⟨rest.sound, first.trans (rest.grows.mono later fun _ _ => id), fun last arrived => ?_⟩
  obtain ⟨same, passages, directories⟩ := rest.arrived last arrived
  refine ⟨same, List.forall_mem_cons.mpr ⟨passage, passages⟩, ?_⟩
  rw [List.scanl_cons]
  exact List.forall_mem_cons.mpr ⟨rest.grows.directory (first.directory inside), directories⟩

theorem entered_enter (sound : tree.IsSound) (inside : tree.at? location = some .directory) (segments : List String) :
    Entered tree location segments (tree.enter location segments) := by
  induction segments generalizing tree location with
  | nil =>
    rw [enter]
    refine ⟨sound, .refl tree, fun last arrived => ?_⟩
    cases arrived
    exact ⟨rfl, List.forall_mem_nil _, by simpa using inside⟩
  | cons segment rest ih =>
    have next : descend location segment ∈ (segment :: rest).scanl descend location := by
      rw [List.scanl_cons]
      exact List.mem_cons_of_mem _ (start_mem_scanl rest _)
    rw [enter]
    split
    next idle =>
      refine Entered.cons inside (.inl idle) (.refl tree) ?_
      rw [descend_idle idle]
      exact ih sound inside
    next visible =>
      split
      next out =>
        refine Entered.cons inside (.inr (.inl out)) (.refl tree) ?_
        rw [descend, if_neg visible, if_pos out]
        exact ih sound (sound.dropLast inside)
      next inward =>
        have down : descend location segment = location ++ [segment] := by
          rw [descend, if_neg visible, if_neg inward]
        rw [down] at next
        split
        next there =>
          refine Entered.cons inside (.inr (.inr (sound.named location segment (by simp [there])))) (.refl tree) ?_
          rw [down]
          exact ih sound there
        next => exact .blocked sound
        next absent =>
          split
          next named =>
            have new : tree.at? (location ++ [segment]) ≠ some .directory := by simp [absent]
            refine Entered.cons inside (.inr (.inr named)) (.put_directory (by simp) absent next) ?_
            rw [down]
            exact ih (sound.put inside named new _) (by simp [at?_put])
          next => exact .blocked sound

/-- What the program sees of a disk to begin with is a tree as it can be on one. -/
theorem isSound_emptyAt (directory : Path) : (emptyAt directory).IsSound := by
  have entered := entered_enter isSound_empty (at?_nil _) directory.segments
  unfold emptyAt
  generalize empty.enter [] directory.segments = result at entered
  obtain ⟨tree, reached⟩ := result
  refine ⟨?_, entered.sound.inside, entered.sound.named⟩
  cases reached with
  | none => rfl
  | some location =>
    obtain ⟨rfl, -, directories⟩ := entered.arrived location rfl
    exact directories _ (foldl_mem_scanl _ _)

/-- What comes of putting a file where a path leads. -/
inductive Stores (tree : FileTree) (path : Path) (content : String) : FileTree × Except WriteFailure WriteStatus → Prop
  | written {after : FileTree} (sound : after.IsSound)
      (grows : Grows (· ∈ tree.way path) (fun place text => tree.destination path = place ∧ content = text) tree after)
      (held : after.read? path = some content) : Stores tree path content (after, .ok .written)
  | refused {after : FileTree} (sound : after.IsSound) (grows : Grows (· ∈ tree.way path) (fun _ _ => False) tree after) :
      Stores tree path content (after, .error ⟨path⟩)

theorem mem_way_of_parents (member : place ∈ path.parents.scanl descend (tree.start path)) : place ∈ tree.way path := by
  obtain ⟨rest, split, -⟩ := path.exists_parents
  rw [way, split, List.scanl_append]
  exact List.mem_append_left _ member

theorem names_of_parents (last : path.segments.getLast? = some name) (visible : Path.isIdle name = false) :
    path.names = path.parents.filter (!Path.isIdle ·) ++ [name] := by
  obtain ⟨rest, split, idle⟩ := path.exists_parents
  rw [names_eq last visible, split, List.filter_append, Path.filter_idle (idle name last visible), List.append_nil]

/-- A path that ends in the name of a file leads from its directory to that name. -/
theorem destination_of_parents (last : path.segments.getLast? = some name) (named : isName name = true) :
    tree.destination path = path.parents.foldl descend (tree.start path) ++ [name] := by
  have names := names_of_parents last (isOrdinary_of_isName named).1
  rw [FileTree.destination, ← foldl_filter, ← Path.names, names, List.foldl_append, foldl_filter]
  exact descend_ordinary (isOrdinary_of_isName named) _

private theorem stores_put (entered : Entered tree (tree.start path) path.parents (middle, some location))
    (passable : isPassable path.parents = true) (last : path.segments.getLast? = some name)
    (named : isName name = true) (clean : isPassable [name] = true)
    (free : middle.at? (location ++ [name]) ≠ some .directory) :
    Stores tree path content (middle.put (location ++ [name]) (.file content), .ok .written) := by
  obtain ⟨rfl, passages, directories⟩ := entered.arrived location rfl
  have visible : Path.isIdle name = false := (isOrdinary_of_isName named).1
  have names := names_of_parents last visible
  have destination : tree.destination path = path.parents.foldl descend (tree.start path) ++ [name] :=
    destination_of_parents last named
  have final : Grows (· ∈ tree.way path) (fun place text => tree.destination path = place ∧ content = text) middle
      (middle.put (path.parents.foldl descend (tree.start path) ++ [name]) (.file content)) :=
    .put_file (by simp) free ⟨destination, rfl⟩
  have grows := (entered.grows.mono (fun _ => mem_way_of_parents) fun _ _ => False.elim).trans final
  have inside := directories _ (foldl_mem_scanl path.parents (tree.start path))
  refine .written (entered.sound.put inside named free _) grows ?_
  rw [read?_eq_some_iff, grows.destination, destination, at?_put (by simp), if_pos rfl, reaches_iff last visible, grows.start]
  rw [names, List.dropLast_concat, List.forall_mem_append, List.forall_mem_singleton]
  refine ⟨⟨?_, ⟨fun segment member => passages segment (List.mem_filter.mp member).1, .inr (.inr named)⟩, ?_⟩, rfl⟩
  · rw [isPassable, List.all_append, Bool.and_eq_true]
    refine ⟨List.all_eq_true.mpr fun segment member => ?_, clean⟩
    exact List.all_eq_true.mp passable segment (List.mem_filter.mp member).1
  · intro stop member
    exact final.directory (directories stop (mem_scanl_filter.mp member))

theorem stores_store (sound : tree.IsSound) (path : Path) (content : String) : Stores tree path content (tree.store path content) := by
  have parents : Entered tree (tree.start path) path.parents (tree.createParents path) ∧
      ∀ last, (tree.createParents path).2 = some last → isPassable path.parents = true := by
    unfold createParents
    split
    next passable => exact ⟨entered_enter sound (sound.start path) _, fun _ _ => passable⟩
    next => exact ⟨.blocked sound, fun _ none => by cases none⟩
  obtain ⟨entered, passable⟩ := parents
  unfold store
  generalize tree.createParents path = result at entered passable
  obtain ⟨middle, reached⟩ := result
  have refused : Stores tree path content (middle, .error ⟨path⟩) :=
    .refused entered.sound (entered.grows.mono (fun _ => mem_way_of_parents) fun _ _ => id)
  cases reached with
  | none => exact refused
  | some location =>
    cases last : path.segments.getLast? with
    | none => exact refused
    | some name =>
      simp only
      split
      next nameable =>
        obtain ⟨named, clean⟩ := Bool.and_eq_true_iff.mp nameable
        split
        next => exact refused
        next free =>
          obtain ⟨rfl, passages, directories⟩ := entered.arrived location rfl
          exact stores_put entered (passable _ rfl) last named clean (by simpa using free)
      next => exact refused

theorem IsSound.store (sound : tree.IsSound) (path : Path) (content : String) : (tree.store path content).1.IsSound := by
  have stores := stores_store sound path content
  cases outcome : tree.store path content with
  | mk after result =>
    rw [outcome] at stores
    cases stores with
    | written sound _ _ => exact sound
    | refused sound _ => exact sound

/-- What becomes different by writing files. -/
def GrowsBy (files : List OutputFile) (before after : FileTree) : Prop :=
  Grows (fun place => ∃ file ∈ files, place ∈ before.way file.path)
    (fun place content => ∃ file ∈ files, before.destination file.path = place ∧ file.content = content) before after

namespace GrowsBy

variable {files more : List OutputFile}

theorem refl (tree : FileTree) : GrowsBy files tree tree := Grows.refl tree

theorem mono (grows : GrowsBy files before after) (subset : files ⊆ more) : GrowsBy more before after := by
  apply Grows.mono grows
  · rintro place ⟨file, listed, passed⟩
    exact ⟨file, subset listed, passed⟩
  · rintro place content ⟨file, listed, stored⟩
    exact ⟨file, subset listed, stored⟩

theorem trans (first : GrowsBy files before middle) (second : GrowsBy files middle after) : GrowsBy files before after := by
  apply Grows.trans first
  apply Grows.mono second
  · rintro place ⟨file, listed, passed⟩
    exact ⟨file, listed, by rwa [Grows.way first] at passed⟩
  · rintro place content ⟨file, listed, stored⟩
    exact ⟨file, listed, by rwa [Grows.destination first] at stored⟩

end GrowsBy

/-- A file that is there as its rule wants it. -/
def IsSettled (tree : FileTree) (file : OutputFile) : Prop :=
  match file.overwrite with
  | .always => tree.read? file.path = some file.content
  | .ifMissing => tree.contains file.path = true

theorem contains_of_read? (held : tree.read? path = some content) : tree.contains path = true := by
  obtain ⟨reached, there⟩ := read?_eq_some_iff.mp held
  exact contains_iff.mpr ⟨reached, by simp [there]⟩

theorem isSettled_of_read? (held : tree.read? file.path = some file.content) : tree.IsSettled file := by
  unfold IsSettled
  split
  · exact held
  · exact contains_of_read? held

theorem IsSettled.contains (settled : tree.IsSettled file) : tree.contains file.path = true := by
  unfold IsSettled at settled
  split at settled
  · exact contains_of_read? settled
  · exact settled

/-- Writing does not unsettle a file that is in another place. -/
theorem IsSettled.grow {files : List OutputFile} (settled : before.IsSettled file) (grows : GrowsBy files before after)
    (apart : ∀ other ∈ files, before.destination other.path ≠ before.destination file.path) : after.IsSettled file := by
  unfold IsSettled at settled ⊢
  split at settled
  · apply Grows.read? grows settled
    rintro text ⟨other, listed, same, -⟩
    exact apart other listed same
  · exact Grows.contains grows settled

/-- What is said of a file that was there already. -/
def keptStatus : Overwrite → WriteStatus
  | .always => .unchanged
  | .ifMissing => .skipped

/-- What comes of writing a file by its rule. -/
inductive Writes (tree : FileTree) (file : OutputFile) : FileTree × Except WriteFailure WriteStatus → Prop
  | kept (settled : tree.IsSettled file) : Writes tree file (tree, .ok (keptStatus file.overwrite))
  | written {after : FileTree} (unsettled : ¬ tree.IsSettled file) (sound : after.IsSound) (grows : GrowsBy [file] tree after)
      (held : after.read? file.path = some file.content) : Writes tree file (after, .ok .written)
  | refused {after : FileTree} (unsettled : ¬ tree.IsSettled file) (sound : after.IsSound) (grows : GrowsBy [file] tree after) :
      Writes tree file (after, .error ⟨file.path⟩)

theorem write_of_settled (settled : tree.IsSettled file) : tree.write file = (tree, .ok (keptStatus file.overwrite)) := by
  unfold write
  cases rule : file.overwrite with
  | always =>
    simp only [IsSettled, rule] at settled
    simp [settled, keptStatus]
  | ifMissing =>
    simp only [IsSettled, rule] at settled
    simp [settled, keptStatus]

theorem write_of_unsettled (unsettled : ¬ tree.IsSettled file) : tree.write file = tree.store file.path file.content := by
  have different : tree.read? file.path ≠ some file.content := fun held => unsettled (isSettled_of_read? held)
  unfold write
  cases rule : file.overwrite with
  | always => simp [different]
  | ifMissing =>
    simp only [IsSettled, rule, Bool.not_eq_true] at unsettled
    simp [unsettled, different]

theorem writes_write (sound : tree.IsSound) (file : OutputFile) : Writes tree file (tree.write file) := by
  by_cases settled : tree.IsSettled file
  · rw [write_of_settled settled]
    exact .kept settled
  rw [write_of_unsettled settled]
  have stores := stores_store sound file.path file.content
  cases outcome : tree.store file.path file.content with
  | mk after result =>
    rw [outcome] at stores
    cases stores with
    | written sound grows held =>
      refine .written settled sound (Grows.mono grows ?_ ?_) held
      · intro place passed
        exact ⟨file, List.mem_singleton_self file, passed⟩
      · intro place text stored
        exact ⟨file, List.mem_singleton_self file, stored⟩
    | refused sound grows =>
      refine .refused settled sound (Grows.mono grows ?_ fun _ _ => False.elim)
      intro place passed
      exact ⟨file, List.mem_singleton_self file, passed⟩

theorem grows_write {result : Except WriteFailure WriteStatus} (sound : tree.IsSound) (wrote : tree.write file = (after, result)) :
    after.IsSound ∧ GrowsBy [file] tree after := by
  have writes := writes_write sound file
  rw [wrote] at writes
  cases writes with
  | kept _ => exact ⟨sound, .refl tree⟩
  | written _ sound grows _ => exact ⟨sound, grows⟩
  | refused _ sound grows => exact ⟨sound, grows⟩

theorem settled_write {status : WriteStatus} (sound : tree.IsSound) (wrote : tree.write file = (after, .ok status)) :
    after.IsSettled file := by
  have writes := writes_write sound file
  rw [wrote] at writes
  cases writes with
  | kept settled => exact settled
  | written _ _ _ held => exact isSettled_of_read? held

theorem read?_write {status : WriteStatus} (sound : tree.IsSound) (unsettled : ¬ tree.IsSettled file)
    (wrote : tree.write file = (after, .ok status)) : after.read? file.path = some file.content := by
  have writes := writes_write sound file
  rw [wrote] at writes
  cases writes with
  | kept settled => exact absurd settled unsettled
  | written _ _ _ held => exact held

theorem failure_write {failure : WriteFailure} (sound : tree.IsSound) (wrote : tree.write file = (after, .error failure)) :
    failure = ⟨file.path⟩ := by
  have writes := writes_write sound file
  rw [wrote] at writes
  cases writes with
  | refused _ _ _ => rfl

end FileTree

end Handoff
