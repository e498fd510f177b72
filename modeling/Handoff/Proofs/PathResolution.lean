import Handoff.Path
import Handoff.Proofs.SourceLines

/-! Where a reference leads. A file refers to another by the way from its own directory, on
which two dots lead out of the innermost one. Files of one site lie below one directory, so
what is beside the directory of a file is reached without knowing where the site is. -/

namespace Handoff
open Text

namespace Path

/-- The segments after one more, the innermost first. -/
def follow (stack : List String) (segment : String) : List String :=
  if isIdle segment then stack
  else if segment = ".." then
    match stack with
    | [] => [".."]
    | top :: rest => if isIdle top || top == ".." then ".." :: top :: rest else rest
  else segment :: stack

/-- The file that a reference in another file leads to. -/
def resolve (file : Path) (reference : String) : Path :=
  ofSegments ((splitString '/' reference).foldl follow (file.segments.reverse.drop 1)).reverse

theorem splitString_append (first rest : String) :
    splitString '/' (first ++ "/" ++ rest) = splitString '/' first ++ splitString '/' rest := by
  have spelling : (first ++ "/" ++ rest).toList = first.toList ++ '/' :: rest.toList := by simp
  rw [splitString, spelling, split_append, List.map_append]
  rfl

theorem splitString_of_not_mem {segment : String} (absent : '/' ∉ segment.toList) : splitString '/' segment = [segment] := by
  rw [splitString, split_of_not_mem absent]
  simp

theorem ofSegments_splitString (text : String) : ofSegments (splitString '/' text) = ⟨text⟩ := by
  have joined : ∀ parts : List (List Char), ['/'].intercalate parts = Text.join '/' parts := by
    intro parts
    induction parts with
    | nil => rfl
    | cons part parts ih =>
      cases parts with
      | nil => simp [Text.join]
      | cons next parts => simp [List.intercalate_cons_cons, ih, Text.join]
  rw [ofSegments, mk.injEq, ← String.toList_inj, String.toList_intercalate, splitString, List.map_map]
  simp only [Function.comp_def, String.toList_ofList, List.map_id']
  exact (joined _).trans (join_split '/' text.toList)

theorem segments_ne_nil (path : Path) : path.segments ≠ [] := by
  simp [segments, splitString, split_ne_nil]

/-- The segments by which paths are compared. -/
def names (path : Path) : List String := path.segments.filter (!isIdle ·)

theorem filter_idle {segments : List String} (idle : ∀ segment ∈ segments, isIdle segment = true) :
    segments.filter (!isIdle ·) = [] := by
  rw [List.filter_eq_nil_iff]
  intro segment member
  simp [idle segment member]

/-- A segment that leads into a directory or to a file. -/
def IsOrdinary (segment : String) : Prop := isIdle segment = false ∧ segment ≠ ".."

instance (segment : String) : Decidable (IsOrdinary segment) := inferInstanceAs (Decidable (_ ∧ _))

private theorem foldl_follow {down : List String} (ordinary : ∀ segment ∈ down, IsOrdinary segment) (stack : List String) :
    down.foldl follow stack = down.reverse ++ stack := by
  induction down generalizing stack with
  | nil => rfl
  | cons segment down ih =>
    obtain ⟨⟨visible, inward⟩, more⟩ := List.forall_mem_cons.mp ordinary
    have next : follow stack segment = segment :: stack := by simp [follow, visible, inward]
    rw [List.foldl_cons, next, ih more]
    simp

/-- Out of the directory of a file and down again. -/
theorem resolve_beside {place name : String} (base rest : String) (ordinary : IsOrdinary place)
    (placeWhole : '/' ∉ place.toList) (nameWhole : '/' ∉ name.toList)
    (down : ∀ segment ∈ splitString '/' rest, IsOrdinary segment) :
    resolve ⟨base ++ "/" ++ place ++ "/" ++ name⟩ ("../" ++ rest) = ⟨base ++ "/" ++ rest⟩ := by
  have file : segments ⟨base ++ "/" ++ place ++ "/" ++ name⟩ = splitString '/' base ++ [place, name] := by
    rw [segments, splitString_append, splitString_append, splitString_of_not_mem placeWhole,
      splitString_of_not_mem nameWhole, List.append_assoc]
    rfl
  have way : splitString '/' ("../" ++ rest) = ".." :: splitString '/' rest := by
    have out : "../" ++ rest = ".." ++ "/" ++ rest := rfl
    rw [out, splitString_append]
    rfl
  have outward : follow (place :: (splitString '/' base).reverse) ".." = (splitString '/' base).reverse := by
    have dots : isIdle ".." = false := by decide
    obtain ⟨visible, inward⟩ := ordinary
    simp [follow, dots, visible, inward]
  rw [resolve, file, way, List.reverse_append, List.foldl_cons]
  have moved := foldl_follow down (splitString '/' base).reverse
  rw [← outward] at moved
  refine (congrArg (ofSegments ·.reverse) moved).trans ?_
  rw [outward, List.reverse_append, List.reverse_reverse, List.reverse_reverse, ← splitString_append,
    ofSegments_splitString]

/-- What paths inside a directory begin with. -/
def below (directory : Path) : String :=
  if directory.text.isEmpty || "/".toList.isSuffixOf directory.text.toList then directory.text
  else directory.text ++ "/"

theorem join_relative {path : Path} (relative : path.isAbsolute = false) (directory : Path) :
    directory.join path = ⟨directory.below ++ path.text⟩ := by
  unfold join below
  rw [if_neg (by simp [relative])]
  split <;> rfl

theorem isAbsolute_append (start rest : String) (nonempty : start ≠ "") :
    isAbsolute ⟨start ++ rest⟩ = isAbsolute ⟨start⟩ := by
  cases spelling : start.toList with
  | nil => exact absurd (String.toList_eq_nil_iff.mp spelling) nonempty
  | cons c tail => simp [isAbsolute, spelling, List.isPrefixOf]

/-- A directory with a name ends in a slash once something is put inside it. -/
theorem exists_below {directory : Path} (nonempty : directory.text ≠ "") : ∃ base, directory.below = base ++ "/" := by
  unfold below
  split
  next ended =>
    rw [Bool.or_eq_true, String.isEmpty_iff, List.isSuffixOf_iff_suffix] at ended
    obtain ⟨start, spelling⟩ := ended.resolve_left nonempty
    refine ⟨String.ofList start, String.toList_inj.mp ?_⟩
    rw [String.toList_append, String.toList_ofList, spelling]
  next => exact ⟨directory.text, rfl⟩

private theorem below_of_name {start name : String} (nonempty : name ≠ "") (whole : '/' ∉ name.toList) :
    below ⟨start ++ name⟩ = start ++ name ++ "/" := by
  unfold below
  rw [if_neg]
  rw [Bool.or_eq_true, String.isEmpty_iff, List.isSuffixOf_iff_suffix, not_or]
  refine ⟨fun empty => nonempty (String.append_eq_empty_iff.mp empty).2, ?_⟩
  rintro ⟨before, spelling⟩
  obtain ⟨inner, last, ending⟩ := (List.eq_nil_or_concat name.toList).resolve_left (by simpa using nonempty)
  have slash : '/' = last := by
    rw [String.toList_append, ending, List.concat_eq_append, ← List.append_assoc] at spelling
    exact List.singleton_inj.mp (List.append_inj_right' spelling rfl)
  exact whole (by rw [ending, slash]; simp)

theorem below_append (start : String) {text : String} (nonempty : text ≠ "") : below ⟨start ++ text⟩ = start ++ below ⟨text⟩ := by
  obtain ⟨inner, last, ending⟩ := (List.eq_nil_or_concat text.toList).resolve_left (by simpa using nonempty)
  rw [List.concat_eq_append] at ending
  have longer : (start ++ text).toList = (start.toList ++ inner) ++ [last] := by
    rw [String.toList_append, ending, List.append_assoc]
  have slash : ∀ before : List Char, ['/'] <:+ before ++ [last] ↔ last = '/' := by
    intro before
    constructor
    · rintro ⟨front, spelling⟩
      exact (List.singleton_inj.mp (List.append_inj_right' spelling rfl)).symm
    · rintro rfl
      exact List.suffix_append before ['/']
  have ends : "/".toList.isSuffixOf (start ++ text).toList = "/".toList.isSuffixOf text.toList := by
    rw [Bool.eq_iff_iff, List.isSuffixOf_iff_suffix, List.isSuffixOf_iff_suffix, longer, ending]
    exact (slash _).trans (slash _).symm
  have some : (start ++ text).isEmpty = false ∧ text.isEmpty = false := by simp [nonempty]
  simp only [below, ends, some]
  split
  · rfl
  · exact String.append_assoc

theorem text_join_ne {directory : Path} (nonempty : directory.text ≠ "") (root : Path) : (root.join directory).text ≠ "" := by
  by_cases absolute : directory.isAbsolute = true
  · rw [join, if_pos absolute]
    exact nonempty
  · rw [join_relative (Bool.not_eq_true _ ▸ absolute)]
    intro empty
    exact nonempty (String.append_eq_empty_iff.mp empty).2

theorem isAbsolute_below {directory : Path} (nonempty : directory.text ≠ "") (rest : String) :
    isAbsolute ⟨directory.below ++ rest⟩ = directory.isAbsolute := by
  unfold below
  split
  · exact isAbsolute_append _ _ nonempty
  · rw [String.append_assoc]
    exact isAbsolute_append _ _ nonempty

theorem isAbsolute_join {directory inner : Path} (nonempty : directory.text ≠ "") (relative : inner.isAbsolute = false) :
    (directory.join inner).isAbsolute = directory.isAbsolute := by
  rw [join_relative relative, isAbsolute_below nonempty]

/-- A directory inside another may be entered first. -/
theorem join_assoc {directory inner : Path} (nonempty : directory.text ≠ "") (relative : inner.isAbsolute = false) (root : Path) :
    root.join (directory.join inner) = (root.join directory).join inner := by
  have leads := isAbsolute_below nonempty inner.text
  rw [join_relative relative, join_relative relative]
  by_cases absolute : directory.isAbsolute = true
  · rw [join, if_pos (leads.trans absolute), join, if_pos absolute]
  · rw [Bool.not_eq_true] at absolute
    rw [join_relative (leads.trans absolute), join_relative absolute, below_append _ nonempty, String.append_assoc]

theorem join_inside {directory : Path} {place name : String} (nonempty : directory.text ≠ "") (named : place ≠ "")
    (relative : isAbsolute ⟨place⟩ = false) (whole : isAbsolute ⟨name⟩ = false) (root : Path) :
    root.join (directory / place / name) = root.join directory / place / name := by
  have outer : directory / place = ⟨directory.below ++ place⟩ := join_relative relative directory
  have longer : (directory / place).text ≠ "" := by
    rw [outer]
    intro empty
    exact named (String.append_eq_empty_iff.mp empty).2
  refine (join_assoc longer whole root).trans (congrArg (fun outer : Path => outer.join ⟨name⟩) ?_)
  exact join_assoc nonempty relative root

theorem isAbsolute_of_not_mem {text : String} (whole : '/' ∉ text.toList) : isAbsolute ⟨text⟩ = false := by
  rw [isAbsolute, Bool.eq_false_iff]
  intro slash
  rw [List.isPrefixOf_iff_prefix] at slash
  exact whole (slash.subset (by decide))

theorem join_name {name : String} (nonempty : name ≠ "") (whole : '/' ∉ name.toList) (directory : Path) {inner : Path}
    (relative : inner.isAbsolute = false) :
    (directory.join ⟨name⟩).join inner = directory.join ⟨name ++ "/" ++ inner.text⟩ := by
  have start : isAbsolute ⟨name⟩ = false := isAbsolute_of_not_mem whole
  have longer : isAbsolute ⟨name ++ "/" ++ inner.text⟩ = false := by
    rw [String.append_assoc, isAbsolute_append _ _ nonempty, start]
  rw [join_relative start, join_relative relative, join_relative longer, below_of_name nonempty whole]
  simp only [String.append_assoc]

end Path

end Handoff
