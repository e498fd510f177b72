import Handoff.FileTree
import Handoff.Proofs.OrderedMaps
import Handoff.Proofs.PathResolution

/-! Where paths lead in a tree of files. The segments of a path alone say which locations it
goes through and where it ends; it can be followed if those on the way are all directories. -/

namespace Handoff

namespace FileTree

variable {tree : FileTree} {location place stop : Location} {segment name : String} {segments : List String} {path : Path}

@[simp] theorem at?_nil (tree : FileTree) : tree.at? [] = some .directory := rfl

theorem at?_put (nonempty : place ≠ []) (entry : Entry) (other : Location) :
    (tree.put place entry).at? other = if other = place then some entry else tree.at? other := by
  cases other with
  | nil => simp [nonempty.symm]
  | cons => simp [at?, put, OrderedMap.get?_insert]

/-- The location after one more segment, whatever is there. -/
def descend (location : Location) (segment : String) : Location :=
  if Path.isIdle segment then location else if segment = ".." then location.dropLast else location ++ [segment]

/-- A segment that stays where it is, leads out, or can be a name. -/
def IsPassage (segment : String) : Prop := Path.isIdle segment = true ∨ segment = ".." ∨ isName segment = true

theorem descend_idle (idle : Path.isIdle segment = true) (location : Location) : descend location segment = location := by
  simp [descend, idle]

theorem descend_ordinary (ordinary : Path.IsOrdinary segment) (location : Location) :
    descend location segment = location ++ [segment] := by
  simp [descend, ordinary.1, ordinary.2]

theorem isOrdinary_of_isName (named : isName segment = true) : Path.IsOrdinary segment := by
  simp only [isName, Bool.and_eq_true, Bool.not_eq_true', bne_iff_ne] at named
  exact named.1

theorem foldl_descend (ordinary : ∀ segment ∈ segments, Path.IsOrdinary segment) (location : Location) :
    segments.foldl descend location = location ++ segments := by
  induction segments generalizing location with
  | nil => simp
  | cons segment rest ih =>
    obtain ⟨first, later⟩ := List.forall_mem_cons.mp ordinary
    rw [List.foldl_cons, descend_ordinary first, ih later]
    simp

theorem scanl_descend (ordinary : ∀ segment ∈ segments, Path.IsOrdinary segment) (location : Location) :
    segments.scanl descend location = segments.inits.map (location ++ ·) := by
  induction segments generalizing location with
  | nil => simp
  | cons segment rest ih =>
    obtain ⟨first, later⟩ := List.forall_mem_cons.mp ordinary
    rw [List.scanl_cons, descend_ordinary first, ih later, List.inits]
    simp [Function.comp_def]

theorem foldl_filter (segments : List String) (location : Location) :
    (segments.filter (!Path.isIdle ·)).foldl descend location = segments.foldl descend location := by
  induction segments generalizing location with
  | nil => rfl
  | cons segment rest ih =>
    rw [List.foldl_cons, ← ih]
    cases idle : Path.isIdle segment with
    | true => rw [List.filter_cons_of_neg (by simp [idle]), descend_idle idle]
    | false => rw [List.filter_cons_of_pos (by simp [idle]), List.foldl_cons]

theorem start_mem_scanl (segments : List String) (location : Location) : location ∈ segments.scanl descend location := by
  cases segments <;> simp

/-- A segment that leads nowhere else adds no stop. -/
theorem mem_scanl_filter :
    stop ∈ (segments.filter (!Path.isIdle ·)).scanl descend location ↔ stop ∈ segments.scanl descend location := by
  induction segments generalizing location with
  | nil => rfl
  | cons segment rest ih =>
    rw [List.scanl_cons, List.mem_cons, ← ih]
    cases idle : Path.isIdle segment with
    | true =>
      have first := start_mem_scanl (rest.filter (!Path.isIdle ·)) location
      rw [List.filter_cons_of_neg (by simp [idle]), descend_idle idle]
      constructor
      · exact .inr
      · rintro (rfl | later)
        · exact first
        · exact later
    | false => rw [List.filter_cons_of_pos (by simp [idle]), List.scanl_cons, List.mem_cons]

theorem foldl_mem_scanl (segments : List String) (location : Location) :
    segments.foldl descend location ∈ segments.scanl descend location := by
  induction segments generalizing location with
  | nil => simp
  | cons segment rest ih =>
    rw [List.scanl_cons]
    exact List.mem_cons_of_mem _ (ih _)

/-- Where a path leads when it can be followed. -/
def destination (tree : FileTree) (path : Path) : Location := path.segments.foldl descend (tree.start path)

/-- The locations that a path leads through. -/
def way (tree : FileTree) (path : Path) : List Location := path.segments.dropLast.scanl descend (tree.start path)

/-- A path that can be followed to its end, whether or not something is there. -/
structure Reaches (tree : FileTree) (path : Path) : Prop where
  passable : isPassable path.segments = true
  passages : ∀ segment ∈ path.segments, IsPassage segment
  directories : ∀ stop ∈ tree.way path, tree.at? stop = some .directory

theorem step?_eq_some_iff {next : Location} :
    tree.step? location segment = some next ↔
      tree.at? location = some .directory ∧ IsPassage segment ∧ next = descend location segment := by
  unfold step?
  split
  next inside =>
    rw [descend, IsPassage]
    rw [@eq_comm _ next]
    by_cases idle : Path.isIdle segment = true
    · simp [idle, inside]
    by_cases out : segment = ".."
    · subst out
      simp [idle, inside]
    by_cases named : isName segment = true
    · simp [idle, out, named, inside]
    · simp [idle, out, named]
  next outside => simp only [reduceCtorEq, false_iff, not_and]; exact fun inside => absurd inside outside

private theorem foldlM_step?_iff {last : Location} :
    segments.foldlM tree.step? location = some last ∧ tree.at? last = some .directory ↔
      (∀ stop ∈ segments.scanl descend location, tree.at? stop = some .directory) ∧
        (∀ segment ∈ segments, IsPassage segment) ∧ last = segments.foldl descend location := by
  induction segments generalizing location with
  | nil =>
    rw [List.foldlM_nil, List.scanl_nil, List.forall_mem_singleton, List.foldl_nil]
    constructor
    · rintro ⟨same, inside⟩
      cases same
      exact ⟨inside, List.forall_mem_nil _, rfl⟩
    · rintro ⟨inside, -, rfl⟩
      exact ⟨rfl, inside⟩
  | cons segment rest ih =>
    rw [List.foldlM_cons, List.scanl_cons, List.forall_mem_cons, List.forall_mem_cons, List.foldl_cons]
    constructor
    · rintro ⟨walked, inside⟩
      obtain ⟨next, first, later⟩ := Option.bind_eq_some_iff.mp walked
      obtain ⟨here, passage, rfl⟩ := step?_eq_some_iff.mp first
      obtain ⟨directories, passages, same⟩ := ih.mp ⟨later, inside⟩
      exact ⟨⟨here, directories⟩, ⟨passage, passages⟩, same⟩
    · rintro ⟨⟨here, directories⟩, ⟨passage, passages⟩, same⟩
      obtain ⟨later, inside⟩ := ih.mpr ⟨directories, passages, same⟩
      exact ⟨Option.bind_eq_some_iff.mpr ⟨_, step?_eq_some_iff.mpr ⟨here, passage, rfl⟩, later⟩, inside⟩

private theorem locate?_eq_some_iff : tree.locate? path = some place ↔ tree.Reaches path ∧ place = tree.destination path := by
  have whole : path.segments.dropLast ++ [path.segments.getLast path.segments_ne_nil] = path.segments :=
    List.dropLast_append_getLast _
  -- the last segment is one more step from a directory
  have walked : path.segments.foldlM tree.step? (tree.start path) = some place ↔
      (∀ stop ∈ tree.way path, tree.at? stop = some .directory) ∧ (∀ segment ∈ path.segments, IsPassage segment) ∧
        place = tree.destination path := by
    rw [way, destination]
    generalize path.segments.getLast path.segments_ne_nil = last at whole
    rw [← whole, List.foldlM_append, List.dropLast_concat, List.foldl_append, List.forall_mem_append,
      List.forall_mem_singleton]
    constructor
    · intro steps
      obtain ⟨inner, walked, final⟩ := Option.bind_eq_some_iff.mp steps
      obtain ⟨next, final, same⟩ := Option.bind_eq_some_iff.mp final
      cases same
      obtain ⟨inside, passage, rfl⟩ := step?_eq_some_iff.mp final
      obtain ⟨directories, passages, rfl⟩ := foldlM_step?_iff.mp ⟨walked, inside⟩
      exact ⟨directories, ⟨passages, passage⟩, rfl⟩
    · rintro ⟨directories, ⟨passages, passage⟩, rfl⟩
      obtain ⟨walked, inside⟩ := foldlM_step?_iff.mpr ⟨directories, passages, rfl⟩
      apply Option.bind_eq_some_iff.mpr
      refine ⟨_, walked, ?_⟩
      rw [List.foldlM_cons, step?_eq_some_iff.mpr ⟨inside, passage, rfl⟩]
      rfl
  unfold locate?
  split
  next passable =>
    rw [walked]
    constructor
    · rintro ⟨directories, passages, same⟩
      exact ⟨⟨passable, passages, directories⟩, same⟩
    · rintro ⟨reached, same⟩
      exact ⟨reached.directories, reached.passages, same⟩
  next blocked =>
    constructor
    · intro none
      cases none
    · rintro ⟨reached, -⟩
      exact absurd reached.passable blocked

theorem find?_eq_some_iff {entry : Entry} :
    tree.find? path = some entry ↔ tree.Reaches path ∧ tree.at? (tree.destination path) = some entry := by
  rw [find?, Option.bind_eq_some_iff]
  constructor
  · rintro ⟨place, located, there⟩
    obtain ⟨reached, rfl⟩ := locate?_eq_some_iff.mp located
    exact ⟨reached, there⟩
  · rintro ⟨reached, there⟩
    exact ⟨_, locate?_eq_some_iff.mpr ⟨reached, rfl⟩, there⟩

theorem contains_iff : tree.contains path = true ↔ tree.Reaches path ∧ tree.at? (tree.destination path) ≠ none := by
  rw [contains, Option.isSome_iff_exists]
  simp only [find?_eq_some_iff, exists_and_left, Option.ne_none_iff_exists']

theorem read?_eq_some_iff {content : String} :
    tree.read? path = some content ↔ tree.Reaches path ∧ tree.at? (tree.destination path) = some (.file content) := by
  rw [← find?_eq_some_iff, read?]
  split
  next held found => simp [found]
  next other => simpa using other content

theorem names_eq (last : path.segments.getLast? = some name) (visible : Path.isIdle name = false) :
    path.names = path.segments.dropLast.filter (!Path.isIdle ·) ++ [name] := by
  obtain ⟨initial, whole⟩ := List.getLast?_eq_some_iff.mp last
  rw [Path.names, whole, List.dropLast_concat, List.filter_append, List.filter_cons_of_pos (by simp [visible])]
  rfl

/-- Segments that lead nowhere else are of no consequence to a path that ends in a name. -/
theorem reaches_iff (last : path.segments.getLast? = some name) (visible : Path.isIdle name = false) :
    tree.Reaches path ↔ isPassable path.names = true ∧ (∀ segment ∈ path.names, IsPassage segment) ∧
      ∀ stop ∈ path.names.dropLast.scanl descend (tree.start path), tree.at? stop = some .directory := by
  have idlePassable : ∀ segment, Path.isIdle segment = true → (!segment.toList.contains '\x00') = true := by
    intro segment idle
    rw [Path.isIdle, Bool.or_eq_true, beq_iff_eq, beq_iff_eq] at idle
    rcases idle with rfl | rfl <;> decide
  have passable : isPassable path.segments = true ↔ isPassable path.names = true := by
    simp only [isPassable, Path.names, List.all_filter, List.all_eq_true, Bool.or_eq_true, Bool.not_not]
    constructor
    · intro all segment member
      exact .inr (all segment member)
    · intro all segment member
      exact (all segment member).elim (idlePassable segment) id
  have passages : (∀ segment ∈ path.segments, IsPassage segment) ↔ ∀ segment ∈ path.names, IsPassage segment := by
    simp only [Path.names, List.mem_filter, Bool.not_eq_true', and_imp]
    constructor
    · intro all segment member _
      exact all segment member
    · intro all segment member
      cases idle : Path.isIdle segment with
      | true => exact .inl idle
      | false => exact all segment member idle
  rw [names_eq last visible, List.dropLast_concat, ← names_eq last visible, ← passable, ← passages]
  simp only [mem_scanl_filter]
  constructor
  · intro reached
    exact ⟨reached.passable, reached.passages, reached.directories⟩
  · rintro ⟨passable, passages, directories⟩
    exact ⟨passable, passages, directories⟩

end FileTree

end Handoff
