import Handoff.Proofs.SourceLines
import Handoff.Text.Extent
import Mathlib.Data.List.Infix
import Mathlib.Data.List.TakeWhile
import Mathlib.Data.String.Basic

/-! Pieces of a text and what is found in it. A value in quotes is found in a piece if it stands
there and nowhere before, and so is a key that a line assigns, if the piece begins with it. -/

namespace Handoff.Text

theorem byteLength_append (first second : List Char) : byteLength (first ++ second) = byteLength first + byteLength second := by
  induction first with
  | nil => exact (Nat.zero_add _).symm
  | cons c first ih =>
    rw [List.cons_append]
    change c.utf8Size + byteLength (first ++ second) = c.utf8Size + byteLength first + byteLength second
    rw [ih, Nat.add_assoc]

theorem byteLength_cons (c : Char) (chars : List Char) : byteLength (c :: chars) = c.utf8Size + byteLength chars := rfl

theorem byteLength_mono {first second : List Char} (begins : first <+: second) : byteLength first ≤ byteLength second := by
  obtain ⟨rest, rfl⟩ := begins
  rw [byteLength_append]
  exact Nat.le_add_right _ _

private theorem eq_of_byteLength_le {first second : List Char} (begins : first <+: second)
    (short : byteLength second ≤ byteLength first) : first = second := by
  obtain ⟨rest, rfl⟩ := begins
  rw [byteLength_append] at short
  cases rest with
  | nil => exact (List.append_nil first).symm
  | cons c rest =>
    have size := c.utf8Size_pos
    rw [byteLength_cons] at short
    omega

/-- A part of a text that begins a line, its indent apart, and ends before a blank, a comment or
the end of a line. -/
structure Piece (text : List Char) where
  /-- The lines above the line that it begins. -/
  above : List (List Char)
  indent : List Char
  written : List Char
  after : List Char
  whole : text = above.flatMap (· ++ ['\n']) ++ indent ++ written ++ after
  lines : ∀ line ∈ above, '\n' ∉ line
  /-- A mark of byte order may stand before the first line. -/
  indented : ∀ c ∈ indent, c = ' ' ∨ c = '\t' ∨ c = '\ufeff'
  apart : ∀ c ∈ after.head?, c ∈ [' ', '\t', '#', '\n', '\r']

namespace Piece

variable {text : List Char} (piece : Piece text)

def before : List Char := piece.above.flatMap (· ++ ['\n']) ++ piece.indent

/-- Nothing of a stretch is outside of the piece. -/
def Holds (extent : Extent) : Prop :=
  byteLength piece.before ≤ extent.offset ∧ extent.offset + extent.length ≤ byteLength (piece.before ++ piece.written)

instance (extent : Extent) : Decidable (piece.Holds extent) := inferInstanceAs (Decidable (_ ∧ _))

theorem text_eq : text = piece.before ++ piece.written ++ piece.after := piece.whole

/-- No quote stands right before a piece, nor right after it. -/
theorem before_ne_quote (front : List Char) : piece.before ≠ front ++ ['"'] := by
  intro ends
  rw [before] at ends
  rcases List.eq_nil_or_concat' piece.indent with none | ⟨init, c, indent⟩
  · rcases List.eq_nil_or_concat' piece.above with none' | ⟨lines, line, above⟩
    · simp [none, none'] at ends
    · rw [none, above, List.append_nil, List.flatMap_append, List.flatMap_singleton, ← List.append_assoc] at ends
      cases (List.append_inj' ends rfl).2
  · rw [indent, ← List.append_assoc] at ends
    have blank := piece.indented c (indent ▸ List.mem_append_right _ (List.mem_singleton_self c))
    obtain rfl := List.singleton_inj.mp (List.append_inj' ends rfl).2
    revert blank
    decide

private theorem after_ne_quote (rest : List Char) : piece.after ≠ '"' :: rest := by
  intro starts
  have blank := piece.apart '"' (by rw [starts]; rfl)
  revert blank
  decide

theorem before_begins : piece.before <+: text := ⟨piece.written ++ piece.after, by rw [← List.append_assoc, ← piece.text_eq]⟩

theorem written_begins : piece.before ++ piece.written <+: text := ⟨piece.after, piece.text_eq.symm⟩

/-- What stands between the bounds of a piece stands in it. -/
theorem exists_inner {front word : List Char} (here : front ++ word <+: text) (starts : piece.before.length ≤ front.length)
    (stops : (front ++ word).length ≤ (piece.before ++ piece.written).length) :
    ∃ inner outer, front = piece.before ++ inner ∧ piece.written = inner ++ word ++ outer := by
  obtain ⟨inner, rfl⟩ :=
    List.prefix_of_prefix_length_le piece.before_begins ((List.prefix_append front word).trans here) starts
  obtain ⟨outer, same⟩ := List.prefix_of_prefix_length_le here piece.written_begins stops
  refine ⟨inner, outer, rfl, ?_⟩
  simp only [List.append_assoc] at same ⊢
  exact (List.append_cancel_left same).symm

end Piece

/-! Values -/

/-- What stands before a word in a text, and before it wherever else it is found. -/
theorem before?_spec (word text : List Char) :
    match before? word text with
    | some front => front ++ word <+: text ∧ ∀ other, other ++ word <+: text → front.length ≤ other.length
    | none => ∀ other, ¬other ++ word <+: text := by
  induction text with
  | nil =>
    rw [before?]
    cases word with
    | nil => exact ⟨List.prefix_rfl, fun _ _ => Nat.zero_le _⟩
    | cons c word =>
      intro other begins
      exact absurd (List.prefix_nil.mp begins) (List.append_ne_nil_of_right_ne_nil other (List.cons_ne_nil c word))
  | cons c text ih =>
    rw [before?]
    by_cases here : word.isPrefixOf (c :: text) = true
    · rw [if_pos here]
      exact ⟨List.isPrefixOf_iff_prefix.mp here, fun _ _ => Nat.zero_le _⟩
    · rw [if_neg here]
      have later : ∀ other, other ++ word <+: c :: text → ∃ inner, other = c :: inner ∧ inner ++ word <+: text := by
        intro other begins
        cases other with
        | nil => exact absurd (List.isPrefixOf_iff_prefix.mpr begins) here
        | cons d inner =>
          obtain ⟨rfl, inside⟩ := List.cons_prefix_cons.mp begins
          exact ⟨inner, rfl, inside⟩
      cases found : before? word text with
      | none =>
        rw [found] at ih
        intro other begins
        obtain ⟨inner, -, inside⟩ := later other begins
        exact ih inner inside
      | some front =>
        rw [found] at ih
        refine ⟨List.cons_prefix_cons.mpr ⟨rfl, ih.1⟩, fun other begins => ?_⟩
        obtain ⟨inner, rfl, inside⟩ := later other begins
        exact Nat.succ_le_succ (ih.2 inner inside)

theorem isSome_valueExtent?_iff {text value : String} :
    (valueExtent? text value).isSome = true ↔ value ≠ "" ∧ inQuotes value.toList <:+: text.toList := by
  have spec := before?_spec (inQuotes value.toList) text.toList
  rw [valueExtent?]
  split
  next none => simp [String.isEmpty_iff.mp none]
  next filled =>
    rw [Option.isSome_map]
    cases found : before? (inQuotes value.toList) text.toList with
    | none =>
      rw [found] at spec
      simp only [Option.isSome_none, Bool.false_eq_true, false_iff, not_and]
      exact fun _ ⟨above, below, placed⟩ => spec above ⟨below, placed⟩
    | some front =>
      rw [found] at spec
      obtain ⟨below, placed⟩ := spec.1
      simp only [Option.isSome_some, true_iff]
      exact ⟨by simpa using filled, front, below, placed⟩

theorem byteLength_quote (front rest : List Char) : byteLength (front ++ '"' :: rest) = byteLength front + 1 + byteLength rest := by
  have quote : Char.utf8Size '"' = 1 := rfl
  rw [byteLength_append, byteLength_cons, quote, Nat.add_assoc]

/-- A value in quotes stands in a piece if the value is within its bounds: a piece ends and
begins beside no quote. -/
theorem Piece.holds_quoted_iff {text value front : List Char} (piece : Piece text) (here : front ++ inQuotes value <+: text) :
    piece.Holds ⟨byteLength front + 1, byteLength value⟩ ↔
      ∃ inner outer, front = piece.before ++ inner ∧ piece.written = inner ++ inQuotes value ++ outer := by
  have opened : front ++ ['"'] <+: text := List.IsPrefix.trans ⟨value ++ ['"'], by simp [inQuotes]⟩ here
  have closed : front ++ '"' :: value <+: text := List.IsPrefix.trans ⟨['"'], by simp [inQuotes]⟩ here
  constructor
  · rintro ⟨low, high⟩
    have starts : piece.before.length ≤ front.length := by
      by_contra short
      have within := List.prefix_of_prefix_length_le opened piece.before_begins (by rw [List.length_append]; exact Nat.lt_of_not_le short)
      refine piece.before_ne_quote front (eq_of_byteLength_le within ?_).symm
      rw [byteLength_quote]
      exact low
    have stops : (front ++ inQuotes value).length ≤ (piece.before ++ piece.written).length := by
      by_contra short
      have within := List.prefix_of_prefix_length_le piece.written_begins closed (by simp [inQuotes] at short ⊢; omega)
      have same := eq_of_byteLength_le within (by rw [byteLength_quote]; exact high)
      obtain ⟨rest, more⟩ := here
      have ends : piece.before ++ piece.written ++ piece.after = piece.before ++ piece.written ++ '"' :: rest := by
        refine piece.text_eq.symm.trans (more.symm.trans ?_)
        rw [same]
        simp [inQuotes]
      exact piece.after_ne_quote rest (List.append_cancel_left ends)
    exact piece.exists_inner here starts stops
  · rintro ⟨inner, outer, rfl, written⟩
    refine ⟨?_, ?_⟩
    · change byteLength piece.before ≤ byteLength (piece.before ++ inner) + 1
      exact Nat.le_succ_of_le (byteLength_mono (List.prefix_append _ _))
    · have within : (piece.before ++ inner) ++ '"' :: value <+: piece.before ++ piece.written :=
        ⟨'"' :: outer, by rw [written]; simp [inQuotes]⟩
      exact (byteLength_quote _ value).symm.trans_le (byteLength_mono within)

/-- Where a value is found first in quotes: in a piece exactly if it stands there and does not
begin before it. -/
theorem holds_valueExtent?_iff {text value : String} (piece : Piece text.toList) (filled : value ≠ "")
    (quoted : inQuotes value.toList <:+: text.toList) :
    (∃ extent, valueExtent? text value = some extent ∧ piece.Holds extent) ↔
      (∀ front, front ++ inQuotes value.toList <+: text.toList → piece.before.length ≤ front.length) ∧
        inQuotes value.toList <:+: piece.written := by
  obtain ⟨above, below, placed⟩ := quoted
  have spec := before?_spec (inQuotes value.toList) text.toList
  rw [valueExtent?, if_neg (by simpa using filled)]
  cases found : before? (inQuotes value.toList) text.toList with
  | none =>
    rw [found] at spec
    exact absurd ⟨below, placed⟩ (spec above)
  | some front =>
    rw [found] at spec
    obtain ⟨here, first⟩ := spec
    simp only [Option.map_some, Option.some.injEq, exists_eq_left', piece.holds_quoted_iff here]
    constructor
    · rintro ⟨inner, outer, rfl, written⟩
      refine ⟨fun other there => ?_, inner, outer, written.symm⟩
      exact (Nat.le_add_right _ _).trans (List.length_append ▸ first other there)
    · rintro ⟨none, inner, outer, inside⟩
      have again : (piece.before ++ inner) ++ inQuotes value.toList <+: piece.before ++ piece.written :=
        ⟨outer, by rw [← inside]; simp⟩
      have sooner := first _ (again.trans piece.written_begins)
      refine piece.exists_inner here (none front here) ?_
      have sizes := again.length_le
      rw [List.length_append] at sizes ⊢
      omega

/-! Keys -/

/-- No line of a list begins with the assignment of a key. -/
def Unassigned (key : List Char) (lines : List (List Char)) : Prop := ∀ line ∈ lines, keyInLine? key line = none

instance (key : List Char) (lines : List (List Char)) : Decidable (Unassigned key lines) :=
  inferInstanceAs (Decidable (∀ line ∈ lines, _))

theorem byteLength_line (line : List Char) (rest : List Char) :
    byteLength (line ++ ['\n'] ++ rest) = byteLength line + 1 + byteLength rest := by
  have size : Char.utf8Size '\n' = 1 := rfl
  rw [List.append_assoc, List.singleton_append, byteLength_append, byteLength_cons, size, Nat.add_assoc]

theorem keyInLines?_of_unassigned {key : List Char} {above : List (List Char)} (unassigned : Unassigned key above) (start : Nat)
    (rest : List (List Char)) :
    keyInLines? key start (above ++ rest) = keyInLines? key (start + byteLength (above.flatMap (· ++ ['\n']))) rest := by
  induction above generalizing start with
  | nil => rfl
  | cons line above ih =>
    obtain ⟨here, later⟩ := List.forall_mem_cons.mp unassigned
    rw [List.cons_append, keyInLines?, here, List.flatMap_cons, byteLength_line]
    simp only
    rw [ih later]
    congr 1
    omega

private theorem offset_keyInLine?_le {key line : List Char} {extent : Extent} (found : keyInLine? key line = some extent) :
    extent.offset ≤ byteLength line := by
  rw [keyInLine?] at found
  split at found
  · cases found
  · split at found
    · cases found
      exact Nat.sub_le _ _
    · cases found

/-- A key that a line assigns is found in that line, if not sooner. -/
theorem unassigned_of_keyInLines? {key : List Char} {above rest : List (List Char)} {start : Nat} {extent : Extent}
    (found : keyInLines? key start (above ++ rest) = some extent)
    (low : start + byteLength (above.flatMap (· ++ ['\n'])) ≤ extent.offset) : Unassigned key above := by
  induction above generalizing start with
  | nil => exact fun _ absent => absurd absent List.not_mem_nil
  | cons line above ih =>
    rw [List.cons_append, keyInLines?] at found
    rw [List.flatMap_cons, byteLength_line] at low
    cases here : keyInLine? key line with
    | none =>
      rw [here] at found
      exact List.forall_mem_cons.mpr ⟨here, ih found (by omega)⟩
    | some inLine =>
      rw [here] at found
      obtain rfl := Option.some.inj found
      have bound := offset_keyInLine?_le here
      simp only at low
      omega

/-- A key as it is or in quotes, so that it can be told from what follows. -/
def IsSpelled (key spelled : List Char) : Prop :=
  key ≠ [] ∧ (spelled = key ∧ (∀ c ∈ key, isBlank c = false) ∨ spelled = inQuotes key ∧ '"' ∉ key ∧ '\n' ∉ key)

/-- A piece begins with a key and an equals sign on one line. -/
def Piece.BeginsWith {text : List Char} (piece : Piece text) (key : List Char) : Prop :=
  (∀ c ∈ piece.indent, c = ' ' ∨ c = '\t') ∧ ∃ spelled gap value, IsSpelled key spelled ∧ (∀ c ∈ gap, c = ' ' ∨ c = '\t') ∧
    piece.written = spelled ++ gap ++ '=' :: value

private theorem isBlank_of_indent {c : Char} (indent : c = ' ' ∨ c = '\t') : isBlank c = true := by
  rcases indent with rfl | rfl <;> decide

private theorem IsSpelled.not_isBlank {key spelled : List Char} (spelling : IsSpelled key spelled) :
    ∃ c rest, spelled = c :: rest ∧ isBlank c = false := by
  obtain ⟨filled, ⟨rfl, solid⟩ | ⟨rfl, -⟩⟩ := spelling
  · obtain ⟨c, rest, rfl⟩ := List.exists_cons_of_ne_nil filled
    exact ⟨c, rest, rfl, solid c List.mem_cons_self⟩
  · exact ⟨'"', key ++ ['"'], rfl, by decide⟩

private theorem IsSpelled.not_mem_newline {key spelled : List Char} (spelling : IsSpelled key spelled) : '\n' ∉ spelled := by
  obtain ⟨-, ⟨rfl, solid⟩ | ⟨rfl, -, absent⟩⟩ := spelling
  · intro inside
    have blank := solid '\n' inside
    revert blank
    decide
  · simp [inQuotes, absent]

private theorem IsSpelled.afterKey? {key spelled : List Char} (spelling : IsSpelled key spelled) (rest : List Char) :
    afterKey? key (spelled ++ rest) = some rest := by
  have stripped (word : List Char) : after? word (word ++ rest) = some rest := by
    rw [after?, if_pos (List.isPrefixOf_iff_prefix.mpr (List.prefix_append _ _)), List.drop_left]
  obtain ⟨filled, ⟨rfl, -⟩ | ⟨rfl, unquoted, -⟩⟩ := spelling
  · rw [Text.afterKey?, stripped]
    rfl
  · have bare : after? key (inQuotes key ++ rest) = none := by
      obtain ⟨c, key, rfl⟩ := List.exists_cons_of_ne_nil filled
      have other : c ≠ '"' := fun same => unquoted (same ▸ List.mem_cons_self)
      rw [after?, if_neg]
      rw [List.isPrefixOf_iff_prefix]
      exact fun begins => other (List.cons_prefix_cons.mp begins).1
    rw [Text.afterKey?, bare, stripped]
    rfl

/-- A line that assigns a key, by the lengths of its indent and of the key as it is spelled. -/
theorem keyInLine?_spelled {key spelled indent gap : List Char} (spelling : IsSpelled key spelled)
    (indented : ∀ c ∈ indent, c = ' ' ∨ c = '\t') (apart : ∀ c ∈ gap, c = ' ' ∨ c = '\t') (value : List Char) :
    keyInLine? key (indent ++ (spelled ++ (gap ++ '=' :: value))) = some ⟨byteLength indent, byteLength spelled⟩ := by
  have skipped (blanks rest : List Char) (all : ∀ c ∈ blanks, c = ' ' ∨ c = '\t') :
      (blanks ++ rest).dropWhile isBlank = rest.dropWhile isBlank :=
    List.dropWhile_append_of_pos fun c inside => isBlank_of_indent (all c inside)
  have started : (spelled ++ (gap ++ '=' :: value)).dropWhile isBlank = spelled ++ (gap ++ '=' :: value) := by
    obtain ⟨c, rest, rfl, solid⟩ := spelling.not_isBlank
    exact List.dropWhile_cons_of_neg (by simp [solid])
  have equals : ('=' :: value).dropWhile isBlank = '=' :: value := List.dropWhile_cons_of_neg (by decide)
  simp only [keyInLine?, skipped indent _ indented, started, spelling.afterKey?, skipped gap _ apart, equals, byteLength_append]
  congr 2 <;> omega

theorem Piece.split_eq {text : List Char} (piece : Piece text) :
    split '\n' text = piece.above ++ split '\n' (piece.indent ++ (piece.written ++ piece.after)) := by
  refine (congrArg (split '\n') piece.whole).trans ?_
  rw [List.append_assoc, List.append_assoc]
  exact split_ended piece.lines _

/-- A line goes on up to the first separator. -/
theorem split_append_of_not_mem {separator : Char} {front : List Char} (absent : separator ∉ front) (rest : List Char) :
    ∃ part parts, split separator (front ++ rest) = (front ++ part) :: parts := by
  induction front with
  | nil =>
    obtain ⟨part, parts, same⟩ := List.exists_cons_of_ne_nil (split_ne_nil separator rest)
    exact ⟨part, parts, same⟩
  | cons c front ih =>
    rw [List.mem_cons, not_or] at absent
    obtain ⟨part, parts, same⟩ := ih absent.2
    refine ⟨part, parts, ?_⟩
    rw [List.cons_append, split, if_neg (Ne.symm absent.1), same]
    rfl

theorem unassigned_of_holds {text key : String} {piece : Piece text.toList} {extent : Extent}
    (found : keyExtent? text key = some extent) (holds : piece.Holds extent) : Unassigned key.toList piece.above := by
  rw [keyExtent?, piece.split_eq] at found
  refine unassigned_of_keyInLines? found (le_trans ?_ holds.1)
  rw [Nat.zero_add]
  exact byteLength_mono (List.prefix_append _ _)

/-- A key that a piece begins with is found there if no line above assigns one of the same name. -/
theorem holds_keyExtent? {text key : String} {piece : Piece text.toList} (begins : piece.BeginsWith key.toList)
    (unassigned : Unassigned key.toList piece.above) : ∃ extent, keyExtent? text key = some extent ∧ piece.Holds extent := by
  obtain ⟨indented, spelled, gap, value, spelling, apart, written⟩ := begins
  have noBreak (blanks : List Char) (all : ∀ c ∈ blanks, c = ' ' ∨ c = '\t') : '\n' ∉ blanks :=
    fun inside => absurd (all _ inside) (by decide)
  have oneLine : '\n' ∉ piece.indent ++ (spelled ++ (gap ++ ['='])) := by
    simp [noBreak _ indented, noBreak _ apart, spelling.not_mem_newline]
  obtain ⟨part, parts, lines⟩ := split_append_of_not_mem oneLine (value ++ piece.after)
  have rest : piece.indent ++ (piece.written ++ piece.after) =
      piece.indent ++ (spelled ++ (gap ++ ['='])) ++ (value ++ piece.after) := by simp [written]
  have line : piece.indent ++ (spelled ++ (gap ++ ['='])) ++ part = piece.indent ++ (spelled ++ (gap ++ '=' :: part)) := by simp
  refine ⟨⟨byteLength piece.before, byteLength spelled⟩, ?_, le_rfl, ?_⟩
  · rw [keyExtent?, piece.split_eq, keyInLines?_of_unassigned unassigned, rest, lines, line, keyInLines?,
      keyInLine?_spelled spelling indented apart, Nat.zero_add, Piece.before, byteLength_append _ piece.indent]
  · rw [← byteLength_append, written]
    exact byteLength_mono ⟨gap ++ '=' :: value, by simp⟩

/-! What a stretch covers -/

/-- A stretch of a text begins and ends between characters, and a word stands in it. -/
structure Covers (text : String) (extent : Extent) (word : String) : Prop where
  begins : (⟨extent.offset⟩ : String.Pos.Raw).IsValid text
  ends : (⟨extent.offset + extent.length⟩ : String.Pos.Raw).IsValid text
  holds : String.Pos.Raw.extract text ⟨extent.offset⟩ ⟨extent.offset + extent.length⟩ = word

theorem byteLength_eq (chars : List Char) : byteLength chars = String.utf8Len chars := by
  induction chars with
  | nil => rfl
  | cons c chars ih => rw [byteLength_cons, ih, String.utf8Len_cons, Nat.add_comm]

private theorem isValid_of_prefix {text : String} {front : List Char} (begins : front <+: text.toList) :
    (⟨byteLength front⟩ : String.Pos.Raw).IsValid text := by
  obtain ⟨back, whole⟩ := begins
  refine String.Pos.Raw.isValid_iff_exists_append.mpr ⟨String.ofList front, String.ofList back, ?_, ?_⟩
  · rw [← String.ofList_append, whole, String.ofList_toList]
  · rw [String.rawEndPos_ofList, byteLength_eq]

theorem covers_of_eq {text : String} {front word back : List Char} (whole : text.toList = front ++ word ++ back) :
    Covers text ⟨byteLength front, byteLength word⟩ (String.ofList word) where
  begins := isValid_of_prefix ⟨word ++ back, by rw [whole, List.append_assoc]⟩
  ends := by
    rw [← byteLength_append]
    exact isValid_of_prefix ⟨back, whole.symm⟩
  holds := by
    rw [byteLength_eq, byteLength_eq, ← String.ofList_toList (s := text), whole]
    exact String.extract_of_valid front word back

/-- After the blanks that it starts with, a line goes on with a key as it is spelled there, bare or
in quotes, and with an equals sign, which blanks may stand before. -/
def Assigns (key line spelled : List Char) : Prop :=
  (spelled = key ∨ spelled = inQuotes key) ∧
    ∃ gap value, (∀ c ∈ gap, isBlank c = true) ∧ line.dropWhile isBlank = spelled ++ gap ++ '=' :: value

private theorem after?_eq_some_iff {word text rest : List Char} : after? word text = some rest ↔ text = word ++ rest := by
  rw [after?]
  constructor
  · intro found
    split at found
    next begins =>
      obtain ⟨more, rfl⟩ := List.isPrefixOf_iff_prefix.mp begins
      rw [List.drop_left] at found
      exact congrArg (word ++ ·) (Option.some.inj found)
    next => cases found
  · rintro rfl
    rw [if_pos (List.isPrefixOf_iff_prefix.mpr (List.prefix_append word rest)), List.drop_left]

/-- A key that does not begin with a quote is spelled in one way only where a text begins with it. -/
theorem afterKey?_eq_some_iff {key text rest : List Char} (filled : key ≠ []) (bare : key.head? ≠ some '"') :
    afterKey? key text = some rest ↔ ∃ spelled, (spelled = key ∨ spelled = inQuotes key) ∧ text = spelled ++ rest := by
  rw [afterKey?, Option.or_eq_some_iff, after?_eq_some_iff, after?_eq_some_iff]
  constructor
  · rintro (same | ⟨-, same⟩)
    · exact ⟨key, .inl rfl, same⟩
    · exact ⟨inQuotes key, .inr rfl, same⟩
  · rintro ⟨spelled, rfl | rfl, same⟩
    · exact .inl same
    · refine .inr ⟨Option.eq_none_iff_forall_ne_some.mpr fun other found => bare ?_, same⟩
      obtain ⟨c, key, rfl⟩ := List.exists_cons_of_ne_nil filled
      rw [after?_eq_some_iff, same] at found
      exact congrArg some (List.cons.inj found).1.symm

private theorem dropWhile_eq_cons_iff {p : Char → Bool} {c : Char} {text value : List Char} (stops : p c = false) :
    text.dropWhile p = c :: value ↔ ∃ gap, (∀ d ∈ gap, p d = true) ∧ text = gap ++ c :: value := by
  constructor
  · intro same
    refine ⟨text.takeWhile p, fun d => List.mem_takeWhile_imp, ?_⟩
    rw [← same, List.takeWhile_append_dropWhile]
  · rintro ⟨gap, all, rfl⟩
    rw [List.dropWhile_append_of_pos all, List.dropWhile_cons_of_neg (by simp [stops])]

theorem keyInLine?_eq_some_iff {key line : List Char} {extent : Extent} (filled : key ≠ []) (bare : key.head? ≠ some '"') :
    keyInLine? key line = some extent ↔
      ∃ spelled, Assigns key line spelled ∧ extent = ⟨byteLength (line.takeWhile isBlank), byteLength spelled⟩ := by
  have stops : isBlank '=' = false := by decide
  have start : byteLength line = byteLength (line.takeWhile isBlank) + byteLength (line.dropWhile isBlank) := by
    rw [← byteLength_append, List.takeWhile_append_dropWhile]
  rw [keyInLine?]
  constructor
  · intro found
    split at found
    · cases found
    next rest after =>
      obtain ⟨spelled, spelling, text⟩ := (afterKey?_eq_some_iff filled bare).mp after
      split at found
      next value equals =>
        obtain ⟨gap, blank, rfl⟩ := (dropWhile_eq_cons_iff stops).mp equals
        refine ⟨spelled, ⟨spelling, gap, value, blank, text.trans (List.append_assoc ..).symm⟩, ?_⟩
        rw [text, byteLength_append] at found start
        rw [← Option.some.inj found]
        congr 1 <;> omega
      next => cases found
  · rintro ⟨spelled, ⟨spelling, gap, value, blank, text⟩, rfl⟩
    rw [List.append_assoc] at text
    have after := (afterKey?_eq_some_iff filled bare).mpr ⟨spelled, spelling, text⟩
    have equals : (gap ++ '=' :: value).dropWhile isBlank = '=' :: value := (dropWhile_eq_cons_iff stops).mpr ⟨gap, blank, rfl⟩
    rw [text, byteLength_append] at start
    simp only [text] at after
    simp only [text, after, equals, byteLength_append spelled]
    congr 2 <;> omega

/-- The first line that assigns a key, with the lines above it. -/
theorem keyInLines?_eq_some_iff {key : List Char} {lines : List (List Char)} {start : Nat} {extent : Extent} :
    keyInLines? key start lines = some extent ↔
      ∃ above line below inLine, lines = above ++ line :: below ∧ Unassigned key above ∧ keyInLine? key line = some inLine ∧
        extent = ⟨start + byteLength (above.flatMap (· ++ ['\n'])) + inLine.offset, inLine.length⟩ := by
  constructor
  · intro found
    induction lines generalizing start with
    | nil => cases found
    | cons line lines ih =>
      rw [keyInLines?] at found
      cases here : keyInLine? key line with
      | some inLine =>
        rw [here] at found
        exact ⟨[], line, lines, inLine, rfl, fun _ absent => absurd absent List.not_mem_nil, here, (Option.some.inj found).symm⟩
      | none =>
        rw [here] at found
        obtain ⟨above, first, below, inLine, rfl, unassigned, there, rfl⟩ := ih found
        refine ⟨line :: above, first, below, inLine, rfl, List.forall_mem_cons.mpr ⟨here, unassigned⟩, there, ?_⟩
        rw [List.flatMap_cons, byteLength_line]
        congr 1
        omega
  · rintro ⟨above, line, below, inLine, rfl, unassigned, here, rfl⟩
    rw [keyInLines?_of_unassigned unassigned, keyInLines?, here]

private theorem keyInLines?_eq_none_iff {key : List Char} {lines : List (List Char)} {start : Nat} :
    keyInLines? key start lines = none ↔ Unassigned key lines := by
  induction lines generalizing start with
  | nil => exact ⟨fun _ _ absent => absurd absent List.not_mem_nil, fun _ => rfl⟩
  | cons line lines ih =>
    rw [keyInLines?, Unassigned, List.forall_mem_cons]
    cases keyInLine? key line with
    | none => simpa using! ih
    | some inLine => simp

/-- What comes before a line when a text is put together, whatever comes after it. -/
theorem exists_join_append (separator : Char) (above : List (List Char)) (line : List Char) (below : List (List Char)) :
    ∃ back, join separator (above ++ line :: below) = above.flatMap (· ++ [separator]) ++ (line ++ back) := by
  induction above with
  | nil =>
    cases below with
    | nil => exact ⟨[], (List.append_nil line).symm⟩
    | cons next below => exact ⟨separator :: join separator (next :: below), rfl⟩
  | cons first above ih =>
    obtain ⟨back, same⟩ := ih
    refine ⟨back, ?_⟩
    have more : above ++ line :: below ≠ [] := List.append_ne_nil_of_right_ne_nil above (List.cons_ne_nil _ _)
    obtain ⟨next, others, rest⟩ := List.exists_cons_of_ne_nil more
    rw [rest] at same
    rw [List.cons_append, rest, join, same, List.flatMap_cons]
    · simp
    · exact List.cons_ne_nil _ _

/-- A stretch covers a key, as it is spelled there, in the first line that assigns it. -/
structure IsFirstKey (text key : String) (extent : Extent) (above : List (List Char)) (line spelled : List Char) : Prop where
  lines : above ++ [line] <+: split '\n' text.toList
  first : ∀ other ∈ above, ∀ spelled, ¬Assigns key.toList other spelled
  assigns : Assigns key.toList line spelled
  offset : extent.offset = byteLength (above.flatMap (· ++ ['\n'])) + byteLength (line.takeWhile isBlank)
  covers : Covers text extent (String.ofList spelled)

/-- A stretch covers a value where it first stands in quotes. -/
structure IsFirstValue (text value : String) (extent : Extent) (front : List Char) : Prop where
  quoted : front ++ inQuotes value.toList <+: text.toList
  first : ∀ other, other ++ inQuotes value.toList <+: text.toList → front.length ≤ other.length
  offset : extent.offset = byteLength front + 1
  covers : Covers text extent value

section Key

variable {text key : String} (filled : key ≠ "") (bare : key.toList.head? ≠ some '"')
include filled bare

theorem keyInLine?_eq_none_iff {line : List Char} : keyInLine? key.toList line = none ↔ ∀ spelled, ¬Assigns key.toList line spelled := by
  have found (extent : Extent) : keyInLine? key.toList line = some extent ↔
      ∃ spelled, Assigns key.toList line spelled ∧ extent = ⟨byteLength (line.takeWhile isBlank), byteLength spelled⟩ :=
    keyInLine?_eq_some_iff (by simpa using filled) bare
  simp only [Option.eq_none_iff_forall_ne_some, ne_eq, found, not_exists, not_and]
  constructor
  · exact fun none spelled assigns => none _ spelled assigns rfl
  · exact fun none extent spelled assigns _ => none spelled assigns

private theorem isSome_keyExtent?_iff :
    (keyExtent? text key).isSome = true ↔ ∃ line ∈ split '\n' text.toList, ∃ spelled, Assigns key.toList line spelled := by
  rw [Option.isSome_iff_ne_none, ne_eq, keyExtent?, keyInLines?_eq_none_iff, Unassigned]
  simp only [keyInLine?_eq_none_iff filled bare]
  push Not
  rfl

private theorem exists_isFirstKey {extent : Extent} (found : keyExtent? text key = some extent) :
    ∃ above line spelled, IsFirstKey text key extent above line spelled := by
  obtain ⟨above, line, below, inLine, lines, none, here, rfl⟩ := keyInLines?_eq_some_iff.mp found
  obtain ⟨spelled, assigns, rfl⟩ := (keyInLine?_eq_some_iff (by simpa using filled) bare).mp here
  refine ⟨above, line, spelled, ⟨below, ?_⟩, ?_, assigns, ?_, ?_⟩
  · rw [lines, List.append_assoc, List.singleton_append]
  · exact fun other listed => (keyInLine?_eq_none_iff filled bare).mp (none other listed)
  · simp only [Nat.zero_add]
  · obtain ⟨-, gap, value, -, rest⟩ := assigns
    obtain ⟨back, joined⟩ := exists_join_append '\n' above line below
    have whole : text.toList = (above.flatMap (· ++ ['\n']) ++ line.takeWhile isBlank) ++ spelled ++ (gap ++ '=' :: value ++ back) := by
      rw [← join_split '\n' text.toList, lines, joined]
      conv_lhs => rw [← List.takeWhile_append_dropWhile (p := isBlank) (l := line), rest]
      simp only [List.append_assoc]
    simp only [Nat.zero_add, ← byteLength_append]
    exact covers_of_eq whole

end Key

private theorem exists_isFirstValue {text value : String} {extent : Extent} (found : valueExtent? text value = some extent) :
    ∃ front, IsFirstValue text value extent front := by
  have spec := before?_spec (inQuotes value.toList) text.toList
  rw [valueExtent?] at found
  split at found
  · cases found
  · obtain ⟨front, before, rfl⟩ := Option.map_eq_some_iff.mp found
    rw [before] at spec
    obtain ⟨here, first⟩ := spec
    refine ⟨front, here, first, rfl, ?_⟩
    obtain ⟨back, whole⟩ := here
    have inner : text.toList = (front ++ ['"']) ++ value.toList ++ ('"' :: back) := by
      rw [← whole, inQuotes]
      simp
    have covers := covers_of_eq inner
    rw [byteLength_quote front [], String.ofList_toList] at covers
    exact covers

/-- A key is found exactly if a line assigns it, in the first line that does, and a value exactly if
it stands somewhere in quotes, where it does so first. What is found is the key or the value itself. -/
theorem extents_first (text key value : String) (filled : key ≠ "") (bare : key.toList.head? ≠ some '"') (given : value ≠ "") :
    ((keyExtent? text key).isSome = true ↔ ∃ line ∈ split '\n' text.toList, ∃ spelled, Assigns key.toList line spelled) ∧
    (∀ extent, keyExtent? text key = some extent → ∃ above line spelled, IsFirstKey text key extent above line spelled) ∧
    ((valueExtent? text value).isSome = true ↔ inQuotes value.toList <:+: text.toList) ∧
    ∀ extent, valueExtent? text value = some extent → ∃ front, IsFirstValue text value extent front := by
  refine ⟨isSome_keyExtent?_iff filled bare, fun _ => exists_isFirstKey filled bare, ?_, fun _ => exists_isFirstValue⟩
  rw [isSome_valueExtent?_iff]
  exact and_iff_right given

/-- A longer key and a key in quotes before the key itself, after characters of two bytes, and a
value that comes twice. -/
theorem extents_first_quoted :
    let text := "# größe\nnode_ids = 1\n\t\"node_id\" = \"ä\"\nnode_id = \"ä\""
    ("node_id" ≠ "" ∧ "node_id".toList.head? ≠ some '"' ∧ "ä" ≠ "" ∧ keyExtent? text "node_id" = some ⟨24, 9⟩ ∧
      valueExtent? text "ä" = some ⟨37, 2⟩) ∧
    (∃ above line spelled, IsFirstKey text "node_id" ⟨24, 9⟩ above line spelled) ∧ ∃ front, IsFirstValue text "ä" ⟨37, 2⟩ front := by
  intro text
  have filled : "node_id" ≠ "" := by decide
  have bare : "node_id".toList.head? ≠ some '"' := by decide
  have given : "ä" ≠ "" := by decide
  have key : keyExtent? text "node_id" = some ⟨24, 9⟩ := by decide
  have value : valueExtent? text "ä" = some ⟨37, 2⟩ := by decide
  obtain ⟨-, keys, -, values⟩ := extents_first text "node_id" "ä" filled bare given
  exact ⟨⟨filled, bare, given, key, value⟩, keys _ key, values _ value⟩

end Handoff.Text
