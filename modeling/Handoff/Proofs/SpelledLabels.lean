import Handoff.Proofs.RepeatedNaming

/-! Spellings of a label. Its words may stand apart, or be joined with capitals in front. All
spellings have one identifier, and they have one hyphenated name as far as no capital follows
a capital. -/

namespace Handoff.Naming
open Text

/-- A word of small letters and digits, a letter first. -/
structure IsWord (word : List Char) : Prop extends IsPart word where
  starts : ∀ c ∈ word.head?, c.isLower = true

instance (word : List Char) : Decidable (IsWord word) :=
  decidable_of_iff (word ≠ [] ∧ word.all isSmallOrDigit = true ∧ word.head?.all Char.isLower = true)
    ⟨fun ⟨nonempty, plain, starts⟩ => ⟨⟨nonempty, List.all_eq_true.mp plain⟩, (Option.all_eq_true _ _).mp starts⟩,
      fun ⟨⟨nonempty, plain⟩, starts⟩ => ⟨nonempty, List.all_eq_true.mpr plain, (Option.all_eq_true _ _).mpr starts⟩⟩

/-- Words one after the other, with a gap between any two of them and perhaps one behind. -/
inductive Spaced : List (List Char) → List Char → Prop where
  | last (word : List Char) {ending : List Char} (blank : IsGap ending) : Spaced [word] (word ++ ending)
  | next (word : List Char) {gap : List Char} {others : List (List Char)} {text : List Char} (blank : IsGap gap)
      (apart : gap ≠ []) (later : Spaced others text) : Spaced (word :: others) (word ++ (gap ++ text))

/-- A label whose words stand apart, with perhaps a gap before the first. -/
def IsSeparated (parts : List (List Char)) (label : String) : Prop :=
  ∃ lead text, IsGap lead ∧ Spaced parts text ∧ label.toList = lead ++ text

/-- A word with a capital in front. -/
def titled : List Char → List Char
  | [] => []
  | first :: rest => first.toUpper :: rest

/-- Words joined, each with a capital in front. -/
def pascalSpelling (parts : List (List Char)) : String := String.ofList (parts.flatMap titled)

/-- Words joined, each but the first with a capital in front. -/
def camelSpelling : List (List Char) → String
  | [] => ""
  | first :: others => String.ofList (first ++ others.flatMap titled)

private theorem precedesWord_of_isSmallOrDigit {c : Char} (plain : isSmallOrDigit c = true) : precedesWord c = true :=
  forall_of_codes (fun c => isSmallOrDigit c = true → precedesWord c = true) 128 (by decide) c
    (toNat_lt_of_isAlphanum (isAlphanum_of_isSmallOrDigit plain)) plain

/-- The capital of a small letter. -/
theorem toUpper_of_isLower {c : Char} (lower : c.isLower = true) :
    c.toUpper.isAlphanum = true ∧ isUppercase c.toUpper = true ∧ c.toUpper.toLower = c ∧ c.toUpper.isDigit = false :=
  forall_of_codes (fun c => c.isLower = true →
    c.toUpper.isAlphanum = true ∧ isUppercase c.toUpper = true ∧ c.toUpper.toLower = c ∧ c.toUpper.isDigit = false)
    128 (by decide) c (Nat.lt_of_le_of_lt (isLower_iff.mp lower).2 (by decide)) lower

/-- A word starts with a letter, and what follows the letter stays as it is in all spellings. -/
theorem IsWord.exists_cons {word : List Char} (own : IsWord word) :
    ∃ first rest, word = first :: rest ∧ first.isLower = true ∧ ∀ c ∈ rest, isSmallOrDigit c = true := by
  obtain ⟨⟨nonempty, plain⟩, starts⟩ := own
  cases word with
  | nil => exact absurd rfl nonempty
  | cons first rest => exact ⟨first, rest, rfl, starts first rfl, (List.forall_mem_cons.mp plain).2⟩

theorem IsWord.capitalize_eq {word : List Char} (own : IsWord word) : capitalize word = titled word := by
  obtain ⟨first, rest, rfl, lower, -⟩ := own.exists_cons
  have ascii : first.toNat < 128 := Nat.lt_of_le_of_lt (isLower_iff.mp lower).2 (by decide)
  rw [capitalize, capital_ascii ascii, titled, List.singleton_append]

private theorem IsWord.isAlphanum_titled {word : List Char} (own : IsWord word) : ∀ c ∈ titled word, c.isAlphanum = true := by
  obtain ⟨first, rest, rfl, lower, plain⟩ := own.exists_cons
  exact List.forall_mem_cons.mpr ⟨(toUpper_of_isLower lower).1, fun c member => isAlphanum_of_isSmallOrDigit (plain c member)⟩

private theorem IsWord.map_toLower_titled {word : List Char} (own : IsWord word) : (titled word).map Char.toLower = word := by
  have small := own.map_toLower
  obtain ⟨first, rest, rfl, lower, -⟩ := own.exists_cons
  rw [titled, List.map_cons, (toUpper_of_isLower lower).2.2.1, (List.cons.inj small).2]

theorem isAlphanum_flatMap_titled {parts : List (List Char)} (each : ∀ part ∈ parts, IsWord part) :
    ∀ c ∈ parts.flatMap titled, c.isAlphanum = true := by
  intro c member
  obtain ⟨part, listed, inside⟩ := List.mem_flatMap.mp member
  exact (each part listed).isAlphanum_titled c inside

/-! The words of each spelling -/

private theorem words_spaced {parts : List (List Char)} {text : List Char} (spaced : Spaced parts text)
    (each : ∀ part ∈ parts, IsWord part) : words text = parts := by
  induction spaced with
  | last word blank =>
    have own := each word List.mem_cons_self
    exact words_append_ending own.nonempty own.inside blank
  | next word blank apart later ih =>
    obtain ⟨own, others⟩ := List.forall_mem_cons.mp each
    rw [words_append_gap own.nonempty own.inside blank apart, ih others]

private theorem IsSeparated.words_eq {parts : List (List Char)} {label : String} (separated : IsSeparated parts label)
    (each : ∀ part ∈ parts, IsWord part) : words label.toList = parts := by
  obtain ⟨lead, text, blank, spaced, spelled⟩ := separated
  rw [spelled, words_gap blank, words_spaced spaced each]

/-- Small letters and digits leave the scanner where a capital starts another word. -/
theorem foldl_precedesWord {part : List Char} (plain : ∀ c ∈ part, isSmallOrDigit c = true) {boundary : Bool}
    (some : part ≠ [] ∨ boundary = true) : part.foldl (fun _ c => precedesWord c) boundary = true := by
  induction part generalizing boundary with
  | nil => exact some.resolve_left (fun absurd => absurd rfl)
  | cons c rest ih =>
    obtain ⟨here, later⟩ := List.forall_mem_cons.mp plain
    exact ih later (.inr (precedesWord_of_isSmallOrDigit here))

/-- A titled word closes the open word, if there may be one, and leaves itself open; after two
characters a capital starts another word. -/
theorem wordsAfter_titled {word : List Char} (own : IsWord word) {opened : List Char} {boundary : Bool}
    (starts : opened = [] ∨ boundary = true) :
    ∃ after, (2 ≤ word.length → after = true) ∧ ∀ rest,
      wordsAfter opened boundary (titled word ++ rest) = closed opened ++ wordsAfter (titled word).reverse after rest := by
  have kept := own.inside
  obtain ⟨first, tail, rfl, lower, plain⟩ := own.exists_cons
  obtain ⟨letter, upper, -⟩ := toUpper_of_isLower lower
  refine ⟨tail.foldl (fun _ c => precedesWord c) (precedesWord first.toUpper), fun long => ?_, fun rest => ?_⟩
  · refine foldl_precedesWord plain (.inl ?_)
    rintro rfl
    exact absurd long (by simp)
  · have scanned : wordsAfter opened boundary (first.toUpper :: (tail ++ rest)) =
        closed opened ++ wordsAfter [first.toUpper] (precedesWord first.toUpper) (tail ++ rest) := by
      rw [wordsAfter, if_pos (isAlphanumeric_of_isAlphanum letter), upper, Bool.true_and]
      rcases starts with rfl | rfl
      · split <;> rfl
      · rw [if_pos rfl]
    rw [titled, List.cons_append, scanned, wordsAfter_append (List.forall_mem_cons.mp kept).2, List.reverse_cons]

/-- Titled words are found again, behind an open word too if a capital may end it. -/
theorem wordsAfter_flatMap_titled {parts : List (List Char)} (each : ∀ part ∈ parts, IsWord part)
    (long : ∀ part ∈ parts.dropLast, 2 ≤ part.length) {opened : List Char} {boundary : Bool}
    (starts : parts ≠ [] → opened = [] ∨ boundary = true) :
    wordsAfter opened boundary (parts.flatMap titled) = closed opened ++ parts.map titled := by
  induction parts generalizing opened boundary with
  | nil => rw [List.flatMap_nil, wordsAfter, List.map_nil, List.append_nil]
  | cons word others ih =>
    obtain ⟨own, later⟩ := List.forall_mem_cons.mp each
    obtain ⟨after, grown, scanned⟩ := wordsAfter_titled own (starts (List.cons_ne_nil word others))
    have some : (titled word).reverse ≠ [] := by
      obtain ⟨first, rest, rfl, -, -⟩ := own.exists_cons
      simp [titled]
    have shorter : ∀ part ∈ others.dropLast, 2 ≤ part.length := by
      intro part member
      refine long part ?_
      rw [List.dropLast_cons_of_ne_nil (by rintro rfl; cases member)]
      exact List.mem_cons_of_mem word member
    have follows : others ≠ [] → (titled word).reverse = [] ∨ after = true := by
      intro more
      refine .inr (grown (long word ?_))
      rw [List.dropLast_cons_of_ne_nil more]
      exact List.mem_cons_self
    rw [List.flatMap_cons, scanned, ih later shorter follows, closed_of_ne_nil some, List.reverse_reverse, List.map_cons,
      List.singleton_append]

private theorem words_camelSpelling {first : List Char} {others : List (List Char)} (own : IsWord first)
    (each : ∀ part ∈ others, IsWord part) (long : ∀ part ∈ others.dropLast, 2 ≤ part.length) :
    words (camelSpelling (first :: others)).toList = first :: others.map titled := by
  have boundary : first.foldl (fun _ c => precedesWord c) false = true := foldl_precedesWord own.plain (.inl own.nonempty)
  rw [camelSpelling, String.toList_ofList, words, wordsAfter_append own.inside, List.append_nil,
    wordsAfter_flatMap_titled each long (fun _ => .inr boundary), closed_of_ne_nil (by simpa using own.nonempty),
    List.reverse_reverse, List.singleton_append]

private theorem words_pascalSpelling {parts : List (List Char)} (each : ∀ part ∈ parts, IsWord part)
    (long : ∀ part ∈ parts.dropLast, 2 ≤ part.length) : words (pascalSpelling parts).toList = parts.map titled := by
  rw [pascalSpelling, String.toList_ofList, words, wordsAfter_flatMap_titled each long (fun _ => .inl rfl)]
  rfl

/-! The names of each spelling -/

private theorem pascalCase_of_joined {label : String} {parts : List (List Char)} (some : parts ≠ [])
    (each : ∀ part ∈ parts, IsWord part) (joined : (words label.toList).flatMap capitalize = parts.flatMap titled) :
    pascalCase label = pascalSpelling parts := by
  rw [pascalCase, pascalSpelling, joined]
  cases parts with
  | nil => exact absurd rfl some
  | cons word others =>
    obtain ⟨first, rest, rfl, lower, -⟩ := (each word List.mem_cons_self).exists_cons
    simp only [List.flatMap_cons, titled, List.cons_append, (toUpper_of_isLower lower).2.2.2, Bool.false_eq_true, if_false]

private theorem joined_separated {parts : List (List Char)} (each : ∀ part ∈ parts, IsWord part) :
    parts.flatMap capitalize = parts.flatMap titled := by
  rw [List.flatMap_def, List.flatMap_def, List.map_congr_left fun part member => (each part member).capitalize_eq]

/-- However the words of a joined spelling are found, they are joined again as they were. -/
theorem joined_camelSpelling {parts : List (List Char)} (each : ∀ part ∈ parts, IsWord part) :
    (words (camelSpelling parts).toList).flatMap capitalize = parts.flatMap titled := by
  cases parts with
  | nil => rfl
  | cons word others =>
    obtain ⟨own, later⟩ := List.forall_mem_cons.mp each
    have whole := own.capitalize_eq
    have letters := own.inside
    have titles := isAlphanum_flatMap_titled later
    obtain ⟨first, rest, rfl, -, -⟩ := own.exists_cons
    have capitals : ∀ c ∈ rest ++ others.flatMap titled, isUppercase c = true → capital c = [c] := by
      refine List.forall_mem_append.mpr ⟨fun c member upper => ?_, fun c member => capital_of_isUppercase (titles c member)⟩
      rw [((List.forall_mem_cons.mp letters).2 c member).2] at upper
      cases upper
    have inside : ∀ c ∈ first :: (rest ++ others.flatMap titled), isAlphanumeric c = true := by
      rw [← List.cons_append]
      exact List.forall_mem_append.mpr ⟨fun c member => (letters c member).1,
        fun c member => isAlphanumeric_of_isAlphanum (titles c member)⟩
    rw [camelSpelling, String.toList_ofList, List.cons_append, flatMap_capitalize_words inside capitals, ← List.append_assoc,
      ← capitalize, whole, List.flatMap_cons]

private theorem joined_pascalSpelling {parts : List (List Char)} (each : ∀ part ∈ parts, IsWord part) :
    (words (pascalSpelling parts).toList).flatMap capitalize = parts.flatMap titled := by
  have titles := isAlphanum_flatMap_titled each
  rw [pascalSpelling, String.toList_ofList]
  cases parts with
  | nil => rfl
  | cons word others =>
    obtain ⟨first, rest, rfl, lower, -⟩ := (each word List.mem_cons_self).exists_cons
    obtain ⟨letter, upper, -⟩ := toUpper_of_isLower lower
    rw [List.flatMap_cons, titled, List.cons_append] at titles ⊢
    rw [flatMap_capitalize_words (fun c member => isAlphanumeric_of_isAlphanum (titles c member))
      (fun c member => capital_of_isUppercase (titles c (List.mem_cons_of_mem _ member))), capital_of_isUppercase letter upper,
      List.singleton_append]

private theorem isAlphanum_of_toLower {c : Char} (letter : c.toLower.isAlphanum = true) : c.isAlphanum = true := by
  by_cases upper : c.isUpper = true
  · exact isAlphanum_iff.mpr (.inl (.inl upper))
  · have same : c.toLower = c := dif_neg fun bounds => upper (decide_eq_true bounds)
    rwa [same] at letter

/-- A label has the hyphenated name of the words that it has but for capitals. -/
theorem kebabCase_of_words {label : String} {parts : List (List Char)} (each : ∀ part ∈ parts, IsWord part)
    (small : (words label.toList).map (List.map Char.toLower) = parts) : kebabCase label = hyphenated parts := by
  have ascii : HasAsciiWords label := by
    intro c member letter
    have kept : c ∈ (words label.toList).flatten := by
      rw [flatten_words]
      exact List.mem_filter.mpr ⟨member, letter⟩
    obtain ⟨word, listed, inside⟩ := List.mem_flatten.mp kept
    have part : word.map Char.toLower ∈ parts := small ▸ List.mem_map_of_mem listed
    have plain := (each _ part).plain c.toLower (List.mem_map_of_mem inside)
    exact toNat_lt_of_isAlphanum (isAlphanum_of_toLower (isAlphanum_of_isSmallOrDigit plain))
  rw [kebabCase_ascii ascii, small]

private theorem map_toLower_titled {parts : List (List Char)} (each : ∀ part ∈ parts, IsWord part) :
    (parts.map titled).map (List.map Char.toLower) = parts := by
  rw [List.map_map]
  exact (List.map_congr_left fun part member => (each part member).map_toLower_titled).trans (List.map_id parts)

/-- All spellings of the same words have one identifier, which is the words with capitals in
front. They have one hyphenated name, if no single letter stands before a capital. -/
theorem spellings_agree {parts : List (List Char)} (some : parts ≠ []) (each : ∀ part ∈ parts, IsWord part) :
    (∀ label, IsSeparated parts label → pascalCase label = pascalSpelling parts ∧ kebabCase label = hyphenated parts) ∧
      (pascalCase (camelSpelling parts) = pascalSpelling parts ∧ pascalCase (pascalSpelling parts) = pascalSpelling parts) ∧
      ((∀ part ∈ parts.tail.dropLast, 2 ≤ part.length) → kebabCase (camelSpelling parts) = hyphenated parts) ∧
      ((∀ part ∈ parts.dropLast, 2 ≤ part.length) → kebabCase (pascalSpelling parts) = hyphenated parts) := by
  have lowered : parts.map (List.map Char.toLower) = parts :=
    (List.map_congr_left fun part member => (each part member).map_toLower).trans (List.map_id parts)
  refine ⟨fun label separated => ?_, ⟨pascalCase_of_joined some each (joined_camelSpelling each),
    pascalCase_of_joined some each (joined_pascalSpelling each)⟩, fun long => ?_, fun long => ?_⟩
  · have found := separated.words_eq each
    exact ⟨pascalCase_of_joined some each (by rw [found, joined_separated each]), kebabCase_of_words each (by rw [found, lowered])⟩
  · cases parts with
    | nil => exact absurd rfl some
    | cons first others =>
      obtain ⟨own, later⟩ := List.forall_mem_cons.mp each
      refine kebabCase_of_words each ?_
      rw [words_camelSpelling own later long, List.map_cons, own.map_toLower, map_toLower_titled later]
  · exact kebabCase_of_words each (by rw [words_pascalSpelling each long, map_toLower_titled each])

theorem spellings_agree_hero :
    let parts := ["hero".toList, "h1".toList, "x".toList]
    pascalCase " hero \u2014 h1/x!" = "HeroH1X" ∧ pascalCase "heroH1X" = "HeroH1X" ∧ pascalCase "HeroH1X" = "HeroH1X" ∧
      kebabCase " hero \u2014 h1/x!" = "hero-h1-x" ∧ kebabCase "heroH1X" = "hero-h1-x" ∧ kebabCase "HeroH1X" = "hero-h1-x" ∧
      parts ≠ [] ∧ (∀ part ∈ parts, IsWord part) ∧ IsSeparated parts " hero \u2014 h1/x!" ∧ ∀ part ∈ parts.dropLast, 2 ≤ part.length := by
  intro parts
  have each : ∀ part ∈ parts, IsWord part := by decide
  have some : parts ≠ [] := by decide
  have long : ∀ part ∈ parts.dropLast, 2 ≤ part.length := by decide
  have separated : IsSeparated parts " hero \u2014 h1/x!" := by
    refine ⟨[' '], "hero \u2014 h1/x!".toList, by decide, ?_, by decide⟩
    have last : Spaced ["x".toList] "x!".toList := .last "x".toList (by decide : IsGap ['!'])
    have middle : Spaced ["h1".toList, "x".toList] "h1/x!".toList := .next "h1".toList (by decide : IsGap ['/']) (by decide) last
    exact .next "hero".toList (by decide +kernel : IsGap " \u2014 ".toList) (by decide) middle
  obtain ⟨apart, ⟨camel, pascal⟩, camelName, pascalName⟩ := spellings_agree some each
  obtain ⟨identifier, name⟩ := apart _ separated
  exact ⟨identifier, camel, pascal, name, camelName (by decide), pascalName long, some, each, separated, long⟩

end Handoff.Naming
