import Handoff.Proofs.NameCharacters

/-! The words of a label. Together they are the letters and digits of the label, none is empty,
and words end only where something else stands or a capital follows. A text without gaps can
therefore only be cut before capitals. -/

namespace Handoff.Naming
open Text

private theorem flatten_closed (word : List Char) : (closed word).flatten = word.reverse := by
  cases word <;> simp [closed]

private theorem ne_nil_of_mem_closed {word found : List Char} (member : found ∈ closed word) : found ≠ [] := by
  cases word with
  | nil => simp [closed] at member
  | cons last word =>
    rw [closed, List.isEmpty_cons, if_neg Bool.false_ne_true, List.mem_singleton] at member
    simp [member]

theorem closed_of_ne_nil {word : List Char} (some : word ≠ []) : closed word = [word.reverse] := by
  cases word with
  | nil => exact absurd rfl some
  | cons last word => rfl

private theorem flatten_wordsAfter (word : List Char) (boundary : Bool) (text : List Char) :
    (wordsAfter word boundary text).flatten = word.reverse ++ text.filter isAlphanumeric := by
  induction text generalizing word boundary with
  | nil => rw [wordsAfter, flatten_closed, List.filter_nil, List.append_nil]
  | cons c rest ih =>
    rw [wordsAfter]
    split
    next letter =>
      rw [List.filter_cons_of_pos letter]
      split
      next => rw [List.flatten_append, flatten_closed, ih, List.reverse_singleton, List.singleton_append]
      next => rw [ih, List.reverse_cons, List.append_assoc, List.singleton_append]
    next other =>
      rw [List.filter_cons_of_neg other, List.flatten_append, flatten_closed, ih, List.reverse_nil, List.nil_append]

theorem flatten_words (text : List Char) : (words text).flatten = text.filter isAlphanumeric :=
  flatten_wordsAfter [] false text

private theorem ne_nil_of_mem_wordsAfter {word : List Char} {boundary : Bool} {text found : List Char}
    (member : found ∈ wordsAfter word boundary text) : found ≠ [] := by
  induction text generalizing word boundary with
  | nil => exact ne_nil_of_mem_closed member
  | cons c rest ih =>
    rw [wordsAfter] at member
    split at member
    · split at member
      · rcases List.mem_append.mp member with before | later
        · exact ne_nil_of_mem_closed before
        · exact ih later
      · exact ih member
    · rcases List.mem_append.mp member with before | later
      · exact ne_nil_of_mem_closed before
      · exact ih later

theorem ne_nil_of_mem_words {text found : List Char} (member : found ∈ words text) : found ≠ [] :=
  ne_nil_of_mem_wordsAfter member

theorem words_eq_nil_iff {text : List Char} : words text = [] ↔ ∀ c ∈ text, isAlphanumeric c = false := by
  have none : words text = [] ↔ (words text).flatten = [] := by
    rw [List.flatten_eq_nil_iff]
    constructor
    · intro empty word member
      rw [empty] at member
      cases member
    · intro empty
      refine List.eq_nil_iff_forall_not_mem.mpr fun word member => ?_
      exact ne_nil_of_mem_words member (empty word member)
  rw [none, flatten_words, List.filter_eq_nil_iff]
  simp only [Bool.not_eq_true]

/-- Characters that are no capitals leave the open word open. -/
theorem wordsAfter_append {part : List Char} (inside : ∀ c ∈ part, isAlphanumeric c = true ∧ isUppercase c = false)
    (word : List Char) (boundary : Bool) (rest : List Char) :
    wordsAfter word boundary (part ++ rest) =
      wordsAfter (part.reverse ++ word) (part.foldl (fun _ c => precedesWord c) boundary) rest := by
  induction part generalizing word boundary with
  | nil => rfl
  | cons c part ih =>
    obtain ⟨⟨letter, small⟩, later⟩ := List.forall_mem_cons.mp inside
    rw [List.cons_append, wordsAfter, if_pos letter, small, Bool.false_and, if_neg Bool.false_ne_true, ih later,
      List.reverse_cons, List.append_assoc, List.singleton_append, List.foldl_cons]

/-- Characters that no word has. -/
def IsGap (gap : List Char) : Prop := ∀ c ∈ gap, isAlphanumeric c = false

instance (gap : List Char) : Decidable (IsGap gap) := inferInstanceAs (Decidable (∀ c ∈ gap, _))

theorem words_gap {gap : List Char} (blank : IsGap gap) (rest : List Char) : words (gap ++ rest) = words rest := by
  induction gap with
  | nil => rfl
  | cons c gap ih =>
    obtain ⟨here, later⟩ := List.forall_mem_cons.mp blank
    rw [List.cons_append, words, wordsAfter, if_neg (by simp [here]), ← words, ih later]
    rfl

section

variable {part : List Char} (some : part ≠ []) (inside : ∀ c ∈ part, isAlphanumeric c = true ∧ isUppercase c = false)
include some inside

/-- A word without capitals ends where a gap begins. -/
theorem words_append_gap {gap : List Char} (blank : IsGap gap) (apart : gap ≠ []) (rest : List Char) :
    words (part ++ (gap ++ rest)) = part :: words rest := by
  cases gap with
  | nil => exact absurd rfl apart
  | cons c gap =>
    obtain ⟨here, later⟩ := List.forall_mem_cons.mp blank
    rw [words, wordsAfter_append inside, List.append_nil, List.cons_append, wordsAfter, if_neg (by simp [here]),
      closed_of_ne_nil (by simpa using some), List.reverse_reverse, List.singleton_append, ← words, words_gap later]

theorem words_append_ending {ending : List Char} (blank : IsGap ending) : words (part ++ ending) = [part] := by
  by_cases apart : ending = []
  · rw [apart, words, wordsAfter_append inside, List.append_nil, wordsAfter, closed_of_ne_nil (by simpa using some),
      List.reverse_reverse]
  · rw [← List.append_nil ending, words_append_gap some inside blank apart]
    rfl

end

/-- Words without capitals are found again when something stands between them. -/
theorem words_intercalate {separator : Char} (gap : isAlphanumeric separator = false) {parts : List (List Char)}
    (some : ∀ part ∈ parts, part ≠ [])
    (inside : ∀ part ∈ parts, ∀ c ∈ part, isAlphanumeric c = true ∧ isUppercase c = false) :
    words ([separator].intercalate parts) = parts := by
  induction parts with
  | nil => rfl
  | cons part parts ih =>
    obtain ⟨nonempty, others⟩ := List.forall_mem_cons.mp some
    obtain ⟨first, later⟩ := List.forall_mem_cons.mp inside
    cases parts with
    | nil =>
      rw [List.intercalate_singleton, ← List.append_nil part]
      exact (words_append_ending nonempty first (List.forall_mem_nil _)).trans (by rw [List.append_nil])
    | cons next parts =>
      rw [List.intercalate_cons_cons, List.append_assoc,
        words_append_gap nonempty first (List.forall_mem_singleton.mpr gap) (List.cons_ne_nil _ _), ih others later]

/-! Capital letters at the start of words -/

private theorem capitalize_append {word : List Char} (some : word ≠ []) (more : List Char) :
    capitalize (word ++ more) = capitalize word ++ more := by
  cases word with
  | nil => exact absurd rfl some
  | cons first rest => rw [List.cons_append, capitalize, capitalize, List.append_assoc]

/-- In a text without gaps every later word starts with a capital, so that the words are joined
again as they were. -/
theorem flatMap_capitalize_wordsAfter {text : List Char} (letters : ∀ c ∈ text, isAlphanumeric c = true)
    (capitals : ∀ c ∈ text, isUppercase c = true → capital c = [c]) {word : List Char} (some : word ≠ []) (boundary : Bool) :
    (wordsAfter word boundary text).flatMap capitalize = capitalize word.reverse ++ text := by
  induction text generalizing word boundary with
  | nil => rw [wordsAfter, closed_of_ne_nil some, List.flatMap_singleton, List.append_nil]
  | cons c rest ih =>
    obtain ⟨letter, others⟩ := List.forall_mem_cons.mp letters
    obtain ⟨ofCapital, later⟩ := List.forall_mem_cons.mp capitals
    rw [wordsAfter, if_pos letter]
    split
    next starts =>
      have single : capitalize [c].reverse = [c] := by
        rw [List.reverse_singleton, capitalize, ofCapital (Bool.and_eq_true_iff.mp starts).1, List.append_nil]
      rw [closed_of_ne_nil some, List.singleton_append, List.flatMap_cons, ih others later (List.cons_ne_nil c []), single,
        List.singleton_append]
    next =>
      rw [ih others later (List.cons_ne_nil c word), List.reverse_cons, capitalize_append (by simpa using some),
        List.append_assoc, List.singleton_append]

theorem flatMap_capitalize_words {first : Char} {rest : List Char} (letters : ∀ c ∈ first :: rest, isAlphanumeric c = true)
    (capitals : ∀ c ∈ rest, isUppercase c = true → capital c = [c]) :
    (words (first :: rest)).flatMap capitalize = capital first ++ rest := by
  obtain ⟨letter, others⟩ := List.forall_mem_cons.mp letters
  rw [words, wordsAfter, if_pos letter, Bool.and_false, if_neg Bool.false_ne_true,
    flatMap_capitalize_wordsAfter others capitals (List.cons_ne_nil first []), List.reverse_singleton, capitalize, List.append_nil]

end Handoff.Naming
