import Handoff.Proofs.LabelWords

/-! Names made of names. Where all letters and digits of a label are ASCII, what is made of it
is a name of its kind, and naming it again changes nothing: an identifier can only be cut
before its capitals, and a hyphenated name only at its hyphens. -/

namespace Handoff.Naming
open Text

/-! Case in ASCII -/

theorem isAlphanumeric_ascii {c : Char} (ascii : c.toNat < 128) : isAlphanumeric c = c.isAlphanum :=
  forall_of_codes (fun c => isAlphanumeric c = c.isAlphanum) 128 (by decide) c ascii

private theorem isUppercase_ascii {c : Char} (ascii : c.toNat < 128) : isUppercase c = c.isUpper :=
  forall_of_codes (fun c => isUppercase c = c.isUpper) 128 (by decide) c ascii

theorem isAlphanum_iff {c : Char} : c.isAlphanum = true ↔ (c.isUpper = true ∨ c.isLower = true) ∨ c.isDigit = true :=
  Bool.or_eq_true_iff.trans (or_congr_left Bool.or_eq_true_iff)

theorem toNat_lt_of_isAlphanum {c : Char} (letter : c.isAlphanum = true) : c.toNat < 128 := by
  rcases isAlphanum_iff.mp letter with (upper | lower) | digit
  · exact Nat.lt_of_le_of_lt (isUpper_iff.mp upper).2 (by decide)
  · exact Nat.lt_of_le_of_lt (isLower_iff.mp lower).2 (by decide)
  · exact Nat.lt_of_le_of_lt (Char.isDigit_iff_toNat.mp digit).2 (by decide)

theorem isAlphanumeric_of_isAlphanum {c : Char} (letter : c.isAlphanum = true) : isAlphanumeric c = true :=
  (isAlphanumeric_ascii (toNat_lt_of_isAlphanum letter)).trans letter

/-- A case mapping whose listed letters and later spans are beyond ASCII moves the letters of
its first span alone. -/
theorem mapped_ascii {sequences : List (Nat × List Nat)} (listed : ∀ entry ∈ sequences, 128 ≤ entry.1) (first : Property.Shift)
    {rest : List Property.Shift} (beyond : ∀ shift ∈ rest, 128 ≤ shift.span.first) {c : Char} (ascii : c.toNat < 128)
    {form : List Char}
    (mapped : form =
      match sequences.find? (·.1 == c.toNat) with
      | some (_, codes) => codes.map Char.ofNat
      | none =>
        match (first :: rest).find? (·.span.contains c.toNat) with
        | some shift => [Char.ofNat ((c.toNat : Int) + shift.offset).toNat]
        | none => [c]) :
    form = if first.span.contains c.toNat then [Char.ofNat ((c.toNat : Int) + first.offset).toNat] else [c] := by
  have unlisted : sequences.find? (·.1 == c.toNat) = none := by
    refine List.find?_eq_none.mpr fun entry member => ?_
    have wide := listed entry member
    simp only [beq_iff_eq]
    omega
  have unmoved : rest.find? (·.span.contains c.toNat) = none := by
    refine List.find?_eq_none.mpr fun shift member => ?_
    have wide := beyond shift member
    simp only [Span.contains, Bool.and_eq_true, decide_eq_true_eq]
    omega
  rw [mapped, unlisted]
  cases inside : first.span.contains c.toNat with
  | true => simp only [List.find?_cons, inside, if_true]
  | false => simp only [List.find?_cons, inside, unmoved, Bool.false_eq_true, if_false]

theorem capital_ascii {c : Char} (ascii : c.toNat < 128) : capital c = [c.toUpper] := by
  have moved : capital c = _ := mapped_ascii (by decide : ∀ entry ∈ Property.capitalSequences, 128 ≤ entry.1)
    ⟨⟨0x61, 0x7a, 1⟩, -32⟩ (by decide +kernel : ∀ shift ∈ Property.capitalShifts.tail, 128 ≤ shift.span.first) ascii rfl
  rw [moved]
  exact forall_of_codes (fun c => (if Span.contains ⟨0x61, 0x7a, 1⟩ c.toNat then [Char.ofNat ((c.toNat : Int) + -32).toNat] else [c]) =
    [c.toUpper]) 128 (by decide +kernel) c ascii

theorem small_ascii {c : Char} (ascii : c.toNat < 128) : small c = [c.toLower] := by
  have moved : small c = _ := mapped_ascii (by decide : ∀ entry ∈ Property.smallSequences, 128 ≤ entry.1)
    ⟨⟨0x41, 0x5a, 1⟩, 32⟩ (by decide +kernel : ∀ shift ∈ Property.smallShifts.tail, 128 ≤ shift.span.first) ascii rfl
  rw [moved]
  exact forall_of_codes (fun c => (if Span.contains ⟨0x41, 0x5a, 1⟩ c.toNat then [Char.ofNat ((c.toNat : Int) + 32).toNat] else [c]) =
    [c.toLower]) 128 (by decide +kernel) c ascii

private theorem lowercaseAfter_ascii {chars : List Char} (ascii : ∀ c ∈ chars, c.toNat < 128) (before : List Char) :
    lowercaseAfter before chars = chars.map Char.toLower := by
  induction chars generalizing before with
  | nil => rfl
  | cons c rest ih =>
    obtain ⟨here, later⟩ := List.forall_mem_cons.mp ascii
    have plain : c ≠ 'Σ' := by
      rintro rfl
      exact absurd here (by decide)
    rw [lowercaseAfter, if_neg plain, small_ascii here, ih later, List.map_cons, List.singleton_append]

/-- Small letters and digits, of which hyphenated names are made. -/
def isSmallOrDigit (c : Char) : Bool := c.isLower || c.isDigit

/-- What the case mappings make of letters and digits. -/
theorem case_of_isAlphanum {c : Char} (letter : c.isAlphanum = true) :
    isSmallOrDigit c.toLower = true ∧ c.toUpper.isAlphanum = true ∧ (c.toUpper.isUpper = true ∨ c.toUpper.isDigit = true) :=
  forall_of_codes (fun c => c.isAlphanum = true →
    isSmallOrDigit c.toLower = true ∧ c.toUpper.isAlphanum = true ∧ (c.toUpper.isUpper = true ∨ c.toUpper.isDigit = true))
    128 (by decide) c (toNat_lt_of_isAlphanum letter) letter

/-- What is already a small letter or a digit, and what already is a capital. -/
theorem case_of_case {c : Char} (letter : c.isAlphanum = true) :
    (isSmallOrDigit c = true → c.toLower = c ∧ isUppercase c = false) ∧ (isUppercase c = true → c.toUpper = c) :=
  forall_of_codes (fun c => (isSmallOrDigit c = true → c.toLower = c ∧ isUppercase c = false) ∧ (isUppercase c = true → c.toUpper = c))
    128 (by decide) c (toNat_lt_of_isAlphanum letter)

theorem capital_of_isUppercase {c : Char} (letter : c.isAlphanum = true) (upper : isUppercase c = true) : capital c = [c] := by
  rw [capital_ascii (toNat_lt_of_isAlphanum letter), (case_of_case letter).2 upper]

/-- The letters and digits of a label are ASCII, whatever else it has. -/
def HasAsciiWords (label : String) : Prop := ∀ c ∈ label.toList, isAlphanumeric c = true → c.toNat < 128

instance (label : String) : Decidable (HasAsciiWords label) :=
  inferInstanceAs (Decidable (∀ c ∈ label.toList, isAlphanumeric c = true → c.toNat < 128))

theorem HasAsciiWords.isAlphanum {label : String} (ascii : HasAsciiWords label) {word : List Char} (member : word ∈ words label.toList) :
    ∀ c ∈ word, c.isAlphanum = true := by
  intro c inside
  have listed : c ∈ (words label.toList).flatten := List.mem_flatten.mpr ⟨word, member, inside⟩
  rw [flatten_words] at listed
  obtain ⟨written, letter⟩ := List.mem_filter.mp listed
  rw [← isAlphanumeric_ascii (ascii c written letter)]
  exact letter

/-! Identifiers -/

theorem HasAsciiWords.capitalize_cons {label : String} (ascii : HasAsciiWords label) {first : Char} {rest : List Char}
    (member : first :: rest ∈ words label.toList) : capitalize (first :: rest) = first.toUpper :: rest := by
  have letter := ascii.isAlphanum member first List.mem_cons_self
  rw [capitalize, capital_ascii (toNat_lt_of_isAlphanum letter), List.singleton_append]

private theorem HasAsciiWords.isAlphanum_joined {label : String} (ascii : HasAsciiWords label) :
    ∀ c ∈ (words label.toList).flatMap capitalize, c.isAlphanum = true := by
  intro c member
  obtain ⟨word, listed, within⟩ := List.mem_flatMap.mp member
  have letters := ascii.isAlphanum listed
  cases word with
  | nil => cases within
  | cons first rest =>
    rw [ascii.capitalize_cons listed] at within
    rcases List.mem_cons.mp within with rfl | after
    · have letter := letters first List.mem_cons_self
      exact (case_of_isAlphanum letter).2.1
    · exact letters c (List.mem_cons_of_mem _ after)

/-- Joined words start with a capital, or with a digit, which has none. -/
theorem HasAsciiWords.starts_joined {label : String} (ascii : HasAsciiWords label) {first : Char} {rest : List Char}
    (joined : (words label.toList).flatMap capitalize = first :: rest) : first.isUpper = true ∨ first.isDigit = true := by
  cases found : words label.toList with
  | nil => simp [found] at joined
  | cons word others =>
    have listed : word ∈ words label.toList := found ▸ List.mem_cons_self
    cases word with
    | nil => exact absurd rfl (ne_nil_of_mem_words listed)
    | cons c more =>
      have letter := ascii.isAlphanum listed c List.mem_cons_self
      rw [found, List.flatMap_cons, ascii.capitalize_cons listed, List.cons_append] at joined
      injection joined with same
      exact same ▸ (case_of_isAlphanum letter).2.2

theorem isPascalCase_iff {name : String} : isPascalCase name = true ↔
    ∃ first rest, name.toList = first :: rest ∧ first.isUpper = true ∧ ∀ c ∈ first :: rest, c.isAlphanum = true := by
  unfold isPascalCase
  split
  next empty => simp [empty]
  next first rest spelled =>
    rw [Bool.and_eq_true, List.all_eq_true]
    constructor
    · rintro ⟨upper, letters⟩
      exact ⟨first, rest, spelled, upper, List.forall_mem_cons.mpr ⟨isAlphanum_iff.mpr (.inl (.inl upper)), letters⟩⟩
    · rintro ⟨_, _, same, upper, letters⟩
      obtain ⟨rfl, rfl⟩ := List.cons.inj (spelled.symm.trans same)
      exact ⟨upper, (List.forall_mem_cons.mp letters).2⟩

private theorem isPascalCase_pascalCase {label : String} (ascii : HasAsciiWords label) :
    isPascalCase (pascalCase label) = true := by
  have letters := ascii.isAlphanum_joined
  unfold pascalCase
  dsimp only
  split
  next => decide
  next first rest joined =>
    split
    next =>
      refine isPascalCase_iff.mpr ⟨'C', "omponent".toList ++ (words label.toList).flatMap capitalize, ?_, by decide, ?_⟩
      · rw [String.toList_append, String.toList_ofList]
        rfl
      · rw [← List.cons_append]
        exact List.forall_mem_append.mpr ⟨by decide, letters⟩
    next other =>
      rw [joined] at letters
      exact isPascalCase_iff.mpr ⟨first, rest, by rw [String.toList_ofList, joined],
        (ascii.starts_joined joined).resolve_right other, letters⟩

/-- An identifier is its own identifier. -/
theorem pascalCase_of_isPascalCase {name : String} (pascal : isPascalCase name = true) : pascalCase name = name := by
  obtain ⟨first, rest, spelled, upper, letters⟩ := isPascalCase_iff.mp pascal
  obtain ⟨letter, later⟩ := List.forall_mem_cons.mp letters
  have joined : (words name.toList).flatMap capitalize = first :: rest := by
    rw [spelled]
    rw [flatMap_capitalize_words (fun c member => isAlphanumeric_of_isAlphanum (letters c member))
      fun c member => capital_of_isUppercase (later c member)]
    rw [capital_of_isUppercase letter ((isUppercase_ascii (toNat_lt_of_isAlphanum letter)).trans upper), List.singleton_append]
  have noDigit : first.isDigit = false := by
    refine Bool.eq_false_iff.mpr fun digit => ?_
    have low := (isUpper_iff.mp upper).1
    have high : first.toNat ≤ 57 := (Char.isDigit_iff_toNat.mp digit).2
    omega
  rw [pascalCase, joined]
  simp only [noDigit, Bool.false_eq_true, if_false]
  rw [← spelled, String.ofList_toList]

/-! Hyphenated names -/

/-- A part of a hyphenated name. -/
structure IsPart (part : List Char) : Prop where
  nonempty : part ≠ []
  plain : ∀ c ∈ part, isSmallOrDigit c = true

/-- Parts joined by hyphens. -/
def hyphenated (parts : List (List Char)) : String := String.intercalate "-" (parts.map String.ofList)

theorem toList_hyphenated (parts : List (List Char)) : (hyphenated parts).toList = ['-'].intercalate parts := by
  rw [hyphenated, String.toList_intercalate, List.map_map]
  congr 1
  exact (List.map_congr_left fun part _ => String.toList_ofList).trans (List.map_id parts)

theorem isAlphanum_of_isSmallOrDigit {c : Char} (plain : isSmallOrDigit c = true) : c.isAlphanum = true := by
  rcases Bool.or_eq_true_iff.mp plain with lower | digit
  · exact isAlphanum_iff.mpr (.inl (.inr lower))
  · exact isAlphanum_iff.mpr (.inr digit)

theorem IsPart.inside {part : List Char} (own : IsPart part) : ∀ c ∈ part, isAlphanumeric c = true ∧ isUppercase c = false := by
  intro c member
  have letter := isAlphanum_of_isSmallOrDigit (own.plain c member)
  exact ⟨isAlphanumeric_of_isAlphanum letter, ((case_of_case letter).1 (own.plain c member)).2⟩

theorem IsPart.map_toLower {part : List Char} (own : IsPart part) : part.map Char.toLower = part := by
  refine (List.map_congr_left fun c inside => ?_).trans (List.map_id part)
  have plain := own.plain c inside
  exact ((case_of_case (isAlphanum_of_isSmallOrDigit plain)).1 plain).1

theorem kebabCase_ascii {label : String} (ascii : HasAsciiWords label) :
    kebabCase label = hyphenated ((words label.toList).map (List.map Char.toLower)) := by
  rw [kebabCase, hyphenated, List.map_map]
  congr 1
  refine List.map_congr_left fun word member => ?_
  have letters := ascii.isAlphanum member
  rw [lowercase, String.toList_ofList, lowercaseAfter_ascii fun c inside => toNat_lt_of_isAlphanum (letters c inside)]
  rfl

theorem HasAsciiWords.isPart {label : String} (ascii : HasAsciiWords label) {part : List Char}
    (member : part ∈ (words label.toList).map (List.map Char.toLower)) : IsPart part := by
  obtain ⟨word, listed, rfl⟩ := List.mem_map.mp member
  refine ⟨by simpa using ne_nil_of_mem_words listed, List.forall_mem_map.mpr fun c inside => ?_⟩
  have letter := ascii.isAlphanum listed c inside
  exact (case_of_isAlphanum letter).1

section

variable {parts : List (List Char)} (each : ∀ part ∈ parts, IsPart part)
include each

private theorem hasAsciiWords_hyphenated : HasAsciiWords (hyphenated parts) := by
  refine forall_mem_intercalate (fun c hyphen _ => ?_) fun part member c inside _ => ?_
  · have same : c = '-' := by simpa using hyphen
    rw [same]
    decide
  · obtain ⟨own, listed, rfl⟩ := List.mem_map.mp member
    rw [String.toList_ofList] at inside
    exact toNat_lt_of_isAlphanum (isAlphanum_of_isSmallOrDigit ((each own listed).plain c inside))

/-- A hyphenated name is its own hyphenated name. -/
theorem kebabCase_hyphenated : kebabCase (hyphenated parts) = hyphenated parts := by
  have found : words (hyphenated parts).toList = parts := by
    have gap : isAlphanumeric '-' = false := by decide
    rw [toList_hyphenated]
    exact words_intercalate gap (fun part member => (each part member).nonempty) fun part member => (each part member).inside
  have small : ∀ part ∈ parts, part.map Char.toLower = id part := fun part member => (each part member).map_toLower
  rw [kebabCase_ascii (hasAsciiWords_hyphenated each), found, List.map_congr_left small, List.map_id]

end

private theorem hyphensSeparate_append {part : List Char} (whole : IsPart part) (rest : List Char) :
    hyphensSeparate part = true ∧ hyphensSeparate (part ++ '-' :: rest) = hyphensSeparate rest := by
  obtain ⟨nonempty, plain⟩ := whole
  have other : ∀ c ∈ part, c ≠ '-' := by
    rintro c member rfl
    exact absurd (plain '-' member) (by decide)
  induction part with
  | nil => exact absurd rfl nonempty
  | cons c more ih =>
    obtain ⟨here, later⟩ := List.forall_mem_cons.mp other
    cases more with
    | nil => simp [hyphensSeparate, here]
    | cons d more =>
      have next := (List.forall_mem_cons.mp later).1
      obtain ⟨alone, followed⟩ := ih (List.cons_ne_nil d more) (List.forall_mem_cons.mp plain).2 later
      constructor
      · rw [hyphensSeparate]
        all_goals simp_all
      · rw [List.cons_append, List.cons_append, hyphensSeparate]
        all_goals simp_all

private theorem hyphensSeparate_intercalate {parts : List (List Char)} (each : ∀ part ∈ parts, IsPart part) (some : parts ≠ []) :
    hyphensSeparate (['-'].intercalate parts) = true := by
  induction parts with
  | nil => exact absurd rfl some
  | cons part parts ih =>
    obtain ⟨first, later⟩ := List.forall_mem_cons.mp each
    cases parts with
    | nil => rw [List.intercalate_singleton, (hyphensSeparate_append first []).1]
    | cons next parts =>
      rw [List.intercalate_cons_cons, List.append_assoc, List.singleton_append, (hyphensSeparate_append first _).2]
      exact ih later (List.cons_ne_nil next parts)

private theorem isKebabCase_hyphenated_iff {parts : List (List Char)} (each : ∀ part ∈ parts, IsPart part) :
    isKebabCase (hyphenated parts) = true ↔ parts ≠ [] := by
  constructor
  · rintro kebab rfl
    exact absurd kebab (by decide)
  · intro some
    rw [isKebabCase, Bool.and_eq_true, List.all_eq_true]
    constructor
    · rw [toList_hyphenated]
      exact hyphensSeparate_intercalate each some
    · refine forall_mem_intercalate (fun c hyphen => ?_) fun part member c inside => ?_
      · have same : c = '-' := by simpa using hyphen
        rw [same]
        decide
      · obtain ⟨own, listed, rfl⟩ := List.mem_map.mp member
        rw [String.toList_ofList] at inside
        exact Bool.or_eq_true_iff.mpr (.inl ((each own listed).plain c inside))

private theorem isKebabCase_kebabCase_iff {label : String} (ascii : HasAsciiWords label) :
    isKebabCase (kebabCase label) = true ↔ ∃ c ∈ label.toList, isAlphanumeric c = true := by
  rw [kebabCase_ascii ascii, isKebabCase_hyphenated_iff fun part member => ascii.isPart member, Ne, List.map_eq_nil_iff,
    words_eq_nil_iff]
  simp only [Classical.not_forall, Bool.not_eq_false, exists_prop]

private theorem kebabCase_eq_empty {label : String} (bare : ∀ c ∈ label.toList, isAlphanumeric c = false) :
    kebabCase label = "" := by
  rw [kebabCase, words_eq_nil_iff.mpr bare]
  rfl

private theorem hasAsciiWords_of_isPascalCase {name : String} (pascal : isPascalCase name = true) :
    HasAsciiWords name ∧ ∃ c ∈ name.toList, isAlphanumeric c = true := by
  obtain ⟨first, rest, spelled, -, letters⟩ := isPascalCase_iff.mp pascal
  rw [HasAsciiWords, spelled]
  exact ⟨fun c member _ => toNat_lt_of_isAlphanum (letters c member),
    first, List.mem_cons_self, isAlphanumeric_of_isAlphanum (letters first List.mem_cons_self)⟩

/-- Where all letters and digits of a label are ASCII, its identifier is one and is its own, its
hyphenated name is its own and is one unless the label has no word, and the identifier always
has a hyphenated name. -/
theorem naming_closed {label : String} (ascii : HasAsciiWords label) :
    (isPascalCase (pascalCase label) = true ∧ pascalCase (pascalCase label) = pascalCase label) ∧
      kebabCase (kebabCase label) = kebabCase label ∧
      (isKebabCase (kebabCase label) = true ↔ ∃ c ∈ label.toList, isAlphanumeric c = true) ∧
      ((∀ c ∈ label.toList, isAlphanumeric c = false) → kebabCase label = "") ∧
      isKebabCase (kebabCase (pascalCase label)) = true := by
  have pascal := isPascalCase_pascalCase ascii
  obtain ⟨asciiName, letter⟩ := hasAsciiWords_of_isPascalCase pascal
  refine ⟨⟨pascal, pascalCase_of_isPascalCase pascal⟩, ?_, isKebabCase_kebabCase_iff ascii, kebabCase_eq_empty,
    (isKebabCase_kebabCase_iff asciiName).mpr letter⟩
  rw [kebabCase_ascii ascii]
  exact kebabCase_hyphenated fun part member => ascii.isPart member

theorem naming_closed_page :
    HasAsciiWords "404 pageHTML \u2014 v2x" ∧ pascalCase "404 pageHTML \u2014 v2x" = "Component404PageHTMLV2x" ∧
      pascalCase "Component404PageHTMLV2x" = "Component404PageHTMLV2x" ∧
      kebabCase "404 pageHTML \u2014 v2x" = "404-page-html-v2x" ∧ kebabCase "404-page-html-v2x" = "404-page-html-v2x" ∧
      isKebabCase (kebabCase "Component404PageHTMLV2x") = true := by
  have ascii : HasAsciiWords "404 pageHTML \u2014 v2x" := by decide +kernel
  have pascal : pascalCase "404 pageHTML \u2014 v2x" = "Component404PageHTMLV2x" := by decide +kernel
  have kebab : kebabCase "404 pageHTML \u2014 v2x" = "404-page-html-v2x" := by decide +kernel
  obtain ⟨⟨-, again⟩, same, -, -, selector⟩ := naming_closed ascii
  rw [pascal] at again selector
  rw [kebab] at same
  exact ⟨ascii, pascal, again, kebab, same, selector⟩

end Handoff.Naming
