import Handoff.Text.Span

/-!
Parts of a text: what stands between the occurrences of a character, what is left between blanks, and
the words that occur in it. Main statement: putting the character back between the parts gives the
text again.
-/
namespace Handoff.Text

/-- The parts of a text between the occurrences of a character; there is always one part. -/
def split (separator : Char) : List Char → List (List Char)
  | [] => [[]]
  | c :: rest =>
    if c = separator then [] :: split separator rest
    else
      match split separator rest with
      | [] => [[c]]
      | part :: parts => (c :: part) :: parts

def join (separator : Char) : List (List Char) → List Char
  | [] => []
  | [part] => part
  | part :: parts => part ++ separator :: join separator parts

theorem split_ne_nil (separator : Char) (s : List Char) : split separator s ≠ [] := by
  cases s with
  | nil => exact List.cons_ne_nil _ _
  | cons c rest =>
    unfold split
    split
    · exact List.cons_ne_nil _ _
    · split <;> exact List.cons_ne_nil _ _

theorem join_split (separator : Char) (s : List Char) : join separator (split separator s) = s := by
  induction s with
  | nil => rfl
  | cons c rest ih =>
    unfold split
    cases parts : split separator rest with
    | nil => exact absurd parts (split_ne_nil separator rest)
    | cons part parts' =>
      rw [parts] at ih
      by_cases same : c = separator
      · simp [same, join, ih]
      · cases parts' with
        | nil => simp [same, join, show part = rest from ih]
        | cons next others => simpa [same, join] using ih

/-- The parts of a string between the occurrences of a character. -/
def splitString (separator : Char) (s : String) : List String :=
  (split separator s.toList).map String.ofList

/-! Blank characters are the code points with the property White_Space. -/

def blankSpans : List Span :=
  Span.ofRanges
    [(0x9, 0xd), (0x20, 0x20), (0x85, 0x85), (0xa0, 0xa0), (0x1680, 0x1680), (0x2000, 0x200a),
     (0x2028, 0x2029), (0x202f, 0x202f), (0x205f, 0x205f), (0x3000, 0x3000)]

def isBlank (c : Char) : Bool := Span.tableContains blankSpans c.toNat

/-- The characters without a final run that satisfies a predicate. -/
def dropFinal (p : Char → Bool) (chars : List Char) : List Char :=
  (chars.reverse.dropWhile p).reverse

def trim (s : String) : String := String.ofList (dropFinal isBlank (s.toList.dropWhile isBlank))

/-! Searching -/

def occursIn (word : List Char) : List Char → Bool
  | [] => word.isEmpty
  | c :: rest => word.isPrefixOf (c :: rest) || occursIn word rest

theorem occursIn_iff {word text : List Char} :
    occursIn word text = true ↔ ∃ before after, text = before ++ word ++ after := by
  induction text with
  | nil =>
    simp only [occursIn, List.isEmpty_iff]
    refine ⟨fun h => ⟨[], [], by simp [h]⟩, fun ⟨before, after, h⟩ => ?_⟩
    simp only [List.nil_eq, List.append_eq_nil_iff] at h
    exact h.1.2
  | cons c rest ih =>
    simp only [occursIn, Bool.or_eq_true, List.isPrefixOf_iff_prefix, ih]
    constructor
    · rintro (⟨after, h⟩ | ⟨before, after, rfl⟩)
      · exact ⟨[], after, by simp [h]⟩
      · exact ⟨c :: before, after, by simp⟩
    · rintro ⟨before, after, h⟩
      cases before with
      | nil => exact .inl ⟨after, by simpa using h.symm⟩
      | cons d before =>
        injection h with _ tail
        exact .inr ⟨before, after, tail⟩

theorem occursIn_iff_isInfix {word text : List Char} : occursIn word text = true ↔ word <:+: text := by
  rw [occursIn_iff]
  exact exists_congr fun _ => exists_congr fun _ => eq_comm

end Handoff.Text
