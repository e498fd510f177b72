import Handoff.Proofs.PathResolution

/-! Paths as they are shown, seen from a directory. What is inside the directory is found again
from there, up to segments that lead nowhere else. -/

namespace Handoff.Path
open Text

variable {directory inner path seen : Path} {segments outer more : List String}

/-- A slash in front is an empty segment in front. -/
theorem head?_segments (absolute : path.isAbsolute = true) : path.segments.head? = some "" := by
  obtain ⟨rest, spelling⟩ := List.isPrefixOf_iff_prefix.mp absolute
  have text : path.text = "" ++ "/" ++ String.ofList rest := by
    apply String.toList_inj.mp
    rw [← spelling]
    simp
  rw [Path.segments, text, splitString_append]
  rfl

theorem segments_ofSegments (nonempty : segments ≠ []) (whole : ∀ segment ∈ segments, '/' ∉ segment.toList) :
    (ofSegments segments).segments = segments := by
  induction segments with
  | nil => exact absurd rfl nonempty
  | cons first rest ih =>
    obtain ⟨here, later⟩ := List.forall_mem_cons.mp whole
    cases rest with
    | nil => simpa [ofSegments, Path.segments] using splitString_of_not_mem here
    | cons next rest =>
      have text : (ofSegments (first :: next :: rest)).text = first ++ "/" ++ (ofSegments (next :: rest)).text := by
        simp [ofSegments, String.intercalate_cons_cons]
      have below := ih (List.cons_ne_nil _ _) later
      rw [Path.segments] at below ⊢
      rw [text, splitString_append, splitString_of_not_mem here, below]
      rfl

private theorem names_ofSegments (whole : ∀ segment ∈ segments, '/' ∉ segment.toList) :
    (ofSegments segments).names = segments.filter (!isIdle ·) := by
  cases segments with
  | nil => rfl
  | cons first rest => rw [names, segments_ofSegments (List.cons_ne_nil _ _) whole]

private theorem filter_dropWhile (segments : List String) :
    (segments.dropWhile isIdle).filter (!isIdle ·) = segments.filter (!isIdle ·) := by
  induction segments with
  | nil => rfl
  | cons segment rest ih =>
    cases idle : isIdle segment with
    | true => rw [List.dropWhile_cons_of_pos idle, ih, List.filter_cons_of_neg (by simp [idle])]
    | false => rw [List.dropWhile_cons_of_neg (by simp [idle])]

private theorem isAbsolute_ofSegments (whole : ∀ segment ∈ segments, '/' ∉ segment.toList) :
    (ofSegments (segments.dropWhile isIdle)).isAbsolute = false := by
  cases remaining : segments.dropWhile isIdle with
  | nil => rfl
  | cons first rest =>
    have visible : ¬ isIdle first = true := by
      have head := List.head?_dropWhile_not isIdle segments
      simpa [remaining] using head
    have inside : ∀ segment ∈ first :: rest, '/' ∉ segment.toList := by
      intro segment member
      rw [← remaining] at member
      exact whole segment ((List.dropWhile_suffix isIdle).subset member)
    apply Bool.eq_false_iff.mpr
    intro absolute
    have head := head?_segments absolute
    rw [segments_ofSegments (List.cons_ne_nil _ _) inside] at head
    cases head
    exact visible rfl

private theorem suffix_of_after? {names rest : List String} (found : after? names outer = some rest) : rest <:+ outer := by
  fun_induction after? names outer with
  | case1 outer =>
    cases found
    exact List.suffix_refl _
  | case2 => cases found
  | case3 name names segment outer idle ih => exact (ih found).trans (List.suffix_cons _ _)
  | case4 name names outer visible ih => exact (ih found).trans (List.suffix_cons _ _)
  | case5 => cases found

theorem exists_after?_iff {names : List String} (visible : ∀ name ∈ names, isIdle name = false) :
    (∃ rest, after? names outer = some rest ∧ rest.filter (!isIdle ·) = more) ↔ outer.filter (!isIdle ·) = names ++ more := by
  fun_induction after? names outer with
  | case1 outer => simp
  | case2 name names => simp
  | case3 name names segment outer idle ih => rw [List.filter_cons_of_neg (by simp [idle]), ← ih visible]
  | case4 name names outer shown ih =>
    rw [List.filter_cons_of_pos (by simp [shown]), List.cons_append, List.cons.injEq, ← ih (List.forall_mem_cons.mp visible).2]
    simp
  | case5 name names segment outer shown different =>
    rw [List.filter_cons_of_pos (by simp [shown]), List.cons_append, List.cons.injEq]
    simp [Ne.symm different]

/-- Paths inside a directory have its segments in front, but for idle ones at the end. -/
theorem segments_join (nonempty : directory.text ≠ "") (relative : inner.isAbsolute = false) :
    ∃ front last, front ≠ [] ∧ (∀ segment ∈ last, isIdle segment = true) ∧ directory.segments = front ++ last ∧
      (directory.join inner).segments = front ++ inner.segments := by
  rw [join_relative relative]
  obtain ⟨base, below⟩ := exists_below nonempty
  have joined : Path.segments ⟨directory.below ++ inner.text⟩ = splitString '/' base ++ inner.segments := by
    rw [below, Path.segments, splitString_append]
    rfl
  have front : splitString '/' base ≠ [] := segments_ne_nil ⟨base⟩
  unfold Path.below at below
  split at below
  · refine ⟨_, [""], front, by decide, ?_, joined⟩
    rw [Path.segments, below, ← String.append_empty (s := base ++ "/"), splitString_append]
    rfl
  · refine ⟨_, [], front, List.forall_mem_nil _, ?_, joined⟩
    rw [Path.segments, (String.append_left_inj "/").mp below, List.append_nil]

private theorem empty_join (empty : directory.text = "") (path : Path) : directory.join path = path := by
  unfold join
  split
  · rfl
  · simp [empty]

theorem names_join (nonempty : directory.text ≠ "") (relative : inner.isAbsolute = false) :
    (directory.join inner).names = directory.names ++ inner.names := by
  obtain ⟨front, last, -, idle, outer, whole⟩ := segments_join nonempty relative
  rw [names, names, names, outer, whole, List.filter_append, List.filter_append, filter_idle idle, List.append_nil]

theorem filter_anchored (path : Path) : path.anchored.2.filter (!isIdle ·) = path.names := by
  unfold anchored names
  split
  next rest segments =>
    rw [segments]
    split <;> rfl
  next rest segments =>
    rw [segments]
    rfl
  next => rfl

theorem anchored_fst (path : Path) :
    path.anchored.1 = if path.isAbsolute = true then .root else if path.segments.head? = some "." then .dot else .name := by
  have slash : path.isAbsolute = true → path.segments.head? = some "" := head?_segments
  unfold anchored
  split
  next rest segments =>
    split
    · rfl
    · simp [segments]
  next rest segments =>
    have relative : ¬ path.isAbsolute = true := by
      intro absolute
      simpa [segments] using slash absolute
    simp [segments, relative]
  next other dot =>
    have relative : ¬ path.isAbsolute = true := by
      intro absolute
      obtain ⟨rest, segments⟩ := List.head?_eq_some_iff.mp (slash absolute)
      exact other rest segments
    have named : path.segments.head? ≠ some "." := by
      intro head
      obtain ⟨rest, segments⟩ := List.head?_eq_some_iff.mp head
      exact dot rest segments
    simp [relative, named]

theorem visible_of_mem_filter : ∀ name ∈ segments.filter (!isIdle ·), isIdle name = false := by
  intro name member
  simpa using (List.mem_filter.mp member).2

private theorem slash_not_mem_of_mem_segments {segment : String} (member : segment ∈ path.segments) : '/' ∉ segment.toList := by
  obtain ⟨part, inside, rfl⟩ := List.mem_map.mp member
  rw [String.toList_ofList]
  exact not_mem_of_mem_split inside

private theorem anchored_suffix (path : Path) : path.anchored.2 <:+ path.segments := by
  unfold anchored
  split
  next rest segments =>
    rw [segments]
    split <;> exact List.suffix_cons _ _
  next rest segments =>
    rw [segments]
    exact List.suffix_cons _ _
  next => exact List.suffix_refl _

private theorem relativeTo?_eq_some (found : relativeTo? directory path = some seen) :
    (directory.join seen).names = path.names ∧ (directory.join seen).isAbsolute = path.isAbsolute := by
  unfold relativeTo? at found
  split at found
  next empty =>
    cases found
    rw [empty_join (String.isEmpty_iff.mp empty)]
    exact ⟨rfl, rfl⟩
  next nonempty =>
    simp only at found
    split at found
    next start =>
      obtain ⟨rest, left, rfl⟩ := Option.map_eq_some_iff.mp found
      have whole : ∀ segment ∈ rest, '/' ∉ segment.toList := by
        intro segment member
        exact slash_not_mem_of_mem_segments ((anchored_suffix path).subset ((suffix_of_after? left).subset member))
      have within : ∀ segment ∈ rest.dropWhile isIdle, '/' ∉ segment.toList := by
        intro segment member
        exact whole segment ((List.dropWhile_suffix isIdle).subset member)
      have relative := isAbsolute_ofSegments whole
      have inhabited : directory.text ≠ "" := by simpa using nonempty
      have names := (exists_after?_iff visible_of_mem_filter).mp ⟨rest, left, rfl⟩
      rw [filter_anchored, filter_anchored] at names
      rw [names_join inhabited relative, isAbsolute_join inhabited relative, names_ofSegments within, filter_dropWhile, names]
      refine ⟨rfl, ?_⟩
      -- only absolute paths start at the root
      rw [anchored_fst, anchored_fst] at start
      cases outer : directory.isAbsolute <;> cases shown : path.isAbsolute <;> simp only [outer, shown] at start ⊢
      all_goals
        simp only [Bool.false_eq_true, if_true, if_false] at start
        split at start <;> cases start
    next => cases found

private theorem relativeTo?_join (directory : Path) (relative : inner.isAbsolute = false) :
    ∃ seen, relativeTo? directory (directory.join inner) = some seen := by
  unfold relativeTo?
  split
  next => exact ⟨_, rfl⟩
  next nonempty =>
    have inhabited : directory.text ≠ "" := by simpa using nonempty
    obtain ⟨front, last, some, -, outer, whole⟩ := segments_join inhabited relative
    have head : directory.segments.head? = (directory.join inner).segments.head? := by
      obtain ⟨first, later, rfl⟩ := List.exists_cons_of_ne_nil some
      rw [outer, whole]
      rfl
    have start : directory.anchored.1 = (directory.join inner).anchored.1 := by
      rw [anchored_fst, anchored_fst, isAbsolute_join inhabited relative, head]
    have names : (directory.join inner).anchored.2.filter (!isIdle ·) = directory.anchored.2.filter (!isIdle ·) ++ inner.names := by
      rw [filter_anchored, filter_anchored]
      exact names_join inhabited relative
    obtain ⟨rest, left, -⟩ := (exists_after?_iff visible_of_mem_filter).mpr names
    simp only [start, if_true, left]
    exact ⟨_, rfl⟩

/-- A path is the same when it is seen from a directory that it was put in. -/
theorem join_relativeTo (directory inner : Path) :
    (directory.join (directory.relativeTo (directory.join inner))).names = (directory.join inner).names ∧
      (directory.join (directory.relativeTo (directory.join inner))).isAbsolute = (directory.join inner).isAbsolute := by
  rw [relativeTo]
  cases found : relativeTo? directory (directory.join inner) with
  | some seen => exact relativeTo?_eq_some found
  | none =>
    cases absolute : inner.isAbsolute with
    | false =>
      obtain ⟨seen, other⟩ := relativeTo?_join directory absolute
      rw [found] at other
      cases other
    | true =>
      have same : directory.join inner = inner := if_pos absolute
      rw [Option.getD_none, same, same]
      exact ⟨rfl, rfl⟩

end Handoff.Path
