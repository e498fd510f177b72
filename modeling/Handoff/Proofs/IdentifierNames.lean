import Handoff.Proofs.LabelWords
import Handoff.Text.Property.Identifier

/-! When the name that a label gets is an identifier of a script. Words are made of letters and
numbers of every kind, but an identifier has no numbers that are neither letters nor decimal
digits, and starts with no digit of any script. Capitals do not matter: a case mapping keeps
what may start an identifier, and what may not be in one. -/

namespace Handoff.Text
open Naming

/-! Rising ranges of code points -/

/-- Looks a code point up in rising ranges and stops at the first that ends past it. -/
def rangesContain : List (Nat × Nat) → Nat → Bool
  | [], _ => false
  | (first, last) :: rest, code => if code ≤ last then decide (first ≤ code) else rangesContain rest code

/-- Whether all code points from one to another are in the same range. -/
def rangesCover : List (Nat × Nat) → Nat → Nat → Bool
  | [], _, _ => false
  | (first, last) :: rest, low, high =>
    if low ≤ last then decide (first ≤ low) && decide (high ≤ last) else rangesCover rest low high

/-- Whether no code point from one to another is in a range. -/
def rangesAvoid : List (Nat × Nat) → Nat → Nat → Bool
  | [], _, _ => true
  | (first, last) :: rest, low, high =>
    if last < low then rangesAvoid rest low high else decide (high < first) && decide (high ≤ last)

/-- Whether each of some rising ranges is within a range of its own. -/
def rangesHold : List (Nat × Nat) → List (Nat × Nat) → Bool
  | _, [] => true
  | [], _ :: _ => false
  | (first, last) :: rest, (low, high) :: others =>
    decide (low ≤ high) &&
      if last < low then rangesHold rest ((low, high) :: others)
      else decide (first ≤ low) && decide (high ≤ last) && rangesHold rest others

theorem rangesContain_of_rangesCover {ranges : List (Nat × Nat)} {low high code : Nat} (covered : rangesCover ranges low high = true)
    (above : low ≤ code) (below : code ≤ high) : rangesContain ranges code = true := by
  induction ranges with
  | nil => cases covered
  | cons range rest ih =>
    rw [rangesCover] at covered
    rw [rangesContain]
    split at covered
    next =>
      simp only [Bool.and_eq_true, decide_eq_true_eq] at covered
      rw [if_pos (by omega), decide_eq_true_eq]
      omega
    next =>
      rw [if_neg (by omega)]
      exact ih covered

private theorem rangesContain_of_rangesAvoid {ranges : List (Nat × Nat)} {low high code : Nat}
    (avoided : rangesAvoid ranges low high = true)
    (above : low ≤ code) (below : code ≤ high) : rangesContain ranges code = false := by
  induction ranges with
  | nil => rfl
  | cons range rest ih =>
    rw [rangesAvoid] at avoided
    rw [rangesContain]
    split at avoided
    next =>
      rw [if_neg (by omega)]
      exact ih avoided
    next =>
      simp only [Bool.and_eq_true, decide_eq_true_eq] at avoided
      rw [if_pos (by omega), decide_eq_false_iff_not]
      omega

private theorem rangesContain_of_rangesHold {ranges inner : List (Nat × Nat)} (held : rangesHold ranges inner = true) {code : Nat}
    (inside : rangesContain inner code = true) : rangesContain ranges code = true := by
  induction ranges generalizing inner with
  | nil =>
    cases inner with
    | nil => cases inside
    | cons range others => cases held
  | cons range rest ih =>
    cases inner with
    | nil => cases inside
    | cons next others =>
      rw [rangesHold, Bool.and_eq_true, decide_eq_true_eq] at held
      obtain ⟨rising, held⟩ := held
      have known := inside
      rw [rangesContain] at known ⊢
      split at held
      next before =>
        have above : next.1 ≤ code := by
          split at known
          next => exact of_decide_eq_true known
          next past => omega
        rw [if_neg (by omega)]
        exact ih held inside
      next =>
        simp only [Bool.and_eq_true, decide_eq_true_eq] at held
        split at known
        next ends =>
          rw [decide_eq_true_eq] at known
          rw [if_pos (by omega), decide_eq_true_eq]
          omega
        next past =>
          split
          next => rw [decide_eq_true_eq]; omega
          next => exact ih held.2 known

/-! Identifiers of scripts -/

def isIdentifierStart (c : Char) : Bool := c == '$' || c == '_' || rangesContain Property.identifierStart c.toNat

def isIdentifierPart (c : Char) : Bool := isIdentifierStart c || rangesContain Property.identifierExtension c.toNat

def isIdentifier (name : String) : Bool :=
  match name.toList with
  | [] => false
  | first :: rest => isIdentifierStart first && rest.all isIdentifierPart

theorem isIdentifierPart_of_isIdentifierStart {c : Char} (start : isIdentifierStart c = true) : isIdentifierPart c = true :=
  Bool.or_eq_true_iff.mpr (.inl start)

private theorem isIdentifier_iff {name : String} {first : Char} {rest : List Char} (spelled : name.toList = first :: rest) :
    isIdentifier name = true ↔ isIdentifierStart first = true ∧ ∀ c ∈ first :: rest, isIdentifierPart c = true := by
  rw [isIdentifier, spelled]
  simp only [Bool.and_eq_true, List.all_eq_true, List.forall_mem_cons]
  constructor
  · rintro ⟨start, parts⟩
    exact ⟨start, isIdentifierPart_of_isIdentifierStart start, parts⟩
  · rintro ⟨start, -, parts⟩
    exact ⟨start, parts⟩

/-! Capitals of characters of identifiers -/

/-- Where letters that have a capital are, and where their capitals are, each time within a range
of first characters of identifiers. -/
def casedRanges : List (Nat × Nat) :=
  [
    (0x41, 0x5a), (0x61, 0x7a), (0xb5, 0xb5), (0xc0, 0xd6), (0xd8, 0xf6), (0xf8, 0x2be), (0x370, 0x373), (0x376, 0x377),
    (0x37b, 0x37d), (0x37f, 0x37f), (0x386, 0x386), (0x388, 0x38a), (0x38c, 0x38c), (0x38e, 0x3a1), (0x3a3, 0x3f5),
    (0x3f7, 0x481), (0x48a, 0x52f), (0x531, 0x556), (0x561, 0x587), (0x10a0, 0x10c5), (0x10c7, 0x10c7), (0x10cd, 0x10cd),
    (0x10d0, 0x10fa), (0x10fd, 0x10ff), (0x13a0, 0x13f5), (0x13f8, 0x13fd), (0x1c80, 0x1c8a), (0x1c90, 0x1cba),
    (0x1cbd, 0x1cbf), (0x1d79, 0x1d8e), (0x1e00, 0x1f15), (0x1f18, 0x1f1d), (0x1f20, 0x1f45), (0x1f48, 0x1f4d),
    (0x1f50, 0x1f57), (0x1f59, 0x1f59), (0x1f5b, 0x1f5b), (0x1f5d, 0x1f5d), (0x1f5f, 0x1f7d), (0x1f80, 0x1fb4),
    (0x1fb6, 0x1fbc), (0x1fbe, 0x1fbe), (0x1fc2, 0x1fc4), (0x1fc6, 0x1fcc), (0x1fd0, 0x1fd3), (0x1fd6, 0x1fdb),
    (0x1fe0, 0x1fec), (0x1ff2, 0x1ff4), (0x1ff6, 0x1ffc), (0x2132, 0x2132), (0x214e, 0x214e), (0x2160, 0x2184),
    (0x2c00, 0x2ce3), (0x2ceb, 0x2cee), (0x2cf2, 0x2cf3), (0x2d00, 0x2d25), (0x2d27, 0x2d27), (0x2d2d, 0x2d2d),
    (0xa640, 0xa66d), (0xa680, 0xa69b), (0xa722, 0xa787), (0xa78b, 0xa7dc), (0xa7f5, 0xa7f6), (0xab53, 0xab53),
    (0xab70, 0xabbf), (0xfb00, 0xfb06), (0xfb13, 0xfb17), (0xff21, 0xff3a), (0xff41, 0xff5a), (0x10400, 0x1044f),
    (0x104b0, 0x104d3), (0x104d8, 0x104fb), (0x10570, 0x1057a), (0x1057c, 0x1058a), (0x1058c, 0x10592), (0x10594, 0x10595),
    (0x10597, 0x105a1), (0x105a3, 0x105b1), (0x105b3, 0x105b9), (0x105bb, 0x105bc), (0x10c80, 0x10cb2), (0x10cc0, 0x10cf2),
    (0x10d50, 0x10d65), (0x10d70, 0x10d85), (0x118a0, 0x118df), (0x16e40, 0x16e7f), (0x16ea0, 0x16eb8), (0x16ebb, 0x16ed3),
    (0x1e900, 0x1e943) ]

private theorem isIdentifierStart_of_cased {c : Char} (cased : rangesContain casedRanges c.toNat = true) :
    isIdentifierStart c = true := by
  have held : rangesHold Property.identifierStart casedRanges = true := by decide +kernel
  rw [isIdentifierStart, rangesContain_of_rangesHold held cased, Bool.or_true]

/-- Where a shift moves a code point. -/
def shifted (shift : Property.Shift) (code : Nat) : Nat := ((code : Int) + shift.offset).toNat

/-- A shift between letters, by whole ranges or, where capitals have gaps, each by itself. -/
def movesLetters (shift : Property.Shift) : Bool :=
  rangesCover casedRanges shift.span.first shift.span.last &&
    (rangesCover casedRanges (shifted shift shift.span.first) (shifted shift shift.span.last) ||
      (List.range (shift.span.last + 1 - shift.span.first)).all fun step =>
        !shift.span.contains (shift.span.first + step) || rangesContain casedRanges (shifted shift (shift.span.first + step)))

/-- Code points beyond ASCII that are in no identifier. -/
def isForeign (low high : Nat) : Bool :=
  decide (128 ≤ low) && rangesAvoid Property.identifierStart low high && rangesAvoid Property.identifierExtension low high

/-- A shift between symbols that look like letters. -/
def movesForeign (shift : Property.Shift) : Bool :=
  isForeign shift.span.first shift.span.last && isForeign (shifted shift shift.span.first) (shifted shift shift.span.last)

/-- The one mark whose capital is a letter: an iota that is written below another letter. -/
def subscriptIota : Char := Char.ofNat 0x345

theorem capital_subscriptIota : capital subscriptIota = ['Ι'] := by decide

private theorem kind_of_shift : ∀ shift ∈ Property.capitalShifts, movesLetters shift = true ∨ movesForeign shift = true ∨
    shift.span.first = subscriptIota.toNat ∧ shift.span.last = subscriptIota.toNat := by decide +kernel

/-- A capital of several characters, of which the first is a letter. -/
def startsWithCased : List Nat → Bool
  | [] => false
  | first :: rest => decide (first < 0xd800) && rangesContain casedRanges first &&
      rest.all fun code => decide (code < 0xd800) && (rangesContain casedRanges code || rangesContain Property.identifierExtension code)

private theorem kind_of_sequence : ∀ entry ∈ Property.capitalSequences,
    rangesContain casedRanges entry.1 = true ∧ startsWithCased entry.2 = true := by decide +kernel

private theorem cased_of_movesLetters {shift : Property.Shift} (letters : movesLetters shift = true) {code : Nat}
    (inside : shift.span.contains code = true) :
    rangesContain casedRanges code = true ∧ rangesContain casedRanges (shifted shift code) = true := by
  have within := inside
  simp only [Span.contains, Bool.and_eq_true, decide_eq_true_eq] at within
  obtain ⟨⟨low, high⟩, -⟩ := within
  simp only [movesLetters, Bool.and_eq_true, Bool.or_eq_true, List.all_eq_true, List.mem_range, Bool.not_eq_true'] at letters
  obtain ⟨here, whole | each⟩ := letters
  · refine ⟨rangesContain_of_rangesCover here low high, rangesContain_of_rangesCover whole ?_ ?_⟩
    · unfold shifted
      omega
    · unfold shifted
      omega
  · refine ⟨rangesContain_of_rangesCover here low high, ?_⟩
    have own := each (code - shift.span.first) (by omega)
    rw [Nat.add_sub_cancel' low, inside] at own
    simpa using own

private theorem isIdentifierPart_of_isForeign {low high : Nat} (foreign : isForeign low high = true) {c : Char}
    (above : low ≤ c.toNat) (below : c.toNat ≤ high) : isIdentifierPart c = false := by
  simp only [isForeign, Bool.and_eq_true, decide_eq_true_eq] at foreign
  obtain ⟨⟨wide, noStart⟩, noExtension⟩ := foreign
  have other : ∀ d : Char, d.toNat < 128 → (c == d) = false := by
    intro d small
    refine beq_eq_false_iff_ne.mpr ?_
    rintro rfl
    omega
  rw [isIdentifierPart, isIdentifierStart, other '$' (by decide), other '_' (by decide),
    rangesContain_of_rangesAvoid noStart above below, rangesContain_of_rangesAvoid noExtension above below]
  rfl

/-- A capital form that starts identifiers as its letter does, or is as foreign to them. -/
inductive KeepsIdentifiers (c : Char) : List Char → Prop
  | same : KeepsIdentifiers c [c]
  | start {first : Char} {rest : List Char} (here : isIdentifierStart c = true) (there : isIdentifierStart first = true)
    (others : ∀ d ∈ rest, isIdentifierPart d = true) : KeepsIdentifiers c (first :: rest)
  | foreign {d : Char} (here : isIdentifierPart c = false) (there : isIdentifierPart d = false) : KeepsIdentifiers c [d]
  | iota (here : c = subscriptIota) : KeepsIdentifiers c ['Ι']

theorem keepsIdentifiers_capital (c : Char) : KeepsIdentifiers c (capital c) := by
  rcases capital_cases c with same | ⟨codes, listed, form⟩ | ⟨shift, listed, inside, form⟩
  · exact same ▸ .same
  · obtain ⟨here, cased⟩ := kind_of_sequence _ listed
    cases codes with
    | nil => cases cased
    | cons first rest =>
      simp only [startsWithCased, Bool.and_eq_true, decide_eq_true_eq, List.all_eq_true] at cased
      obtain ⟨⟨valid, there⟩, others⟩ := cased
      rw [form, List.map_cons]
      refine .start (isIdentifierStart_of_cased here) (isIdentifierStart_of_cased ?_) (List.forall_mem_map.mpr fun code member => ?_)
      · rw [toNat_ofNat_of_isValidChar (.inl valid)]
        exact there
      · obtain ⟨low, known⟩ := others code member
        have same := toNat_ofNat_of_isValidChar (.inl low : code.isValidChar)
        rcases Bool.or_eq_true_iff.mp known with letter | extension
        · exact isIdentifierPart_of_isIdentifierStart (isIdentifierStart_of_cased (by rw [same]; exact letter))
        · exact Bool.or_eq_true_iff.mpr (.inr (by rw [same]; exact extension))
  · have moved := toNat_ofNat_of_isValidChar (isValidChar_shifted (keepsNames_capitalShifts _ listed) inside)
    have within := inside
    simp only [Span.contains, Bool.and_eq_true, decide_eq_true_eq] at within
    obtain ⟨⟨low, high⟩, -⟩ := within
    rw [form]
    rcases kind_of_shift _ listed with letters | foreign | ⟨first, last⟩
    · obtain ⟨here, there⟩ := cased_of_movesLetters letters inside
      exact .start (isIdentifierStart_of_cased here) (isIdentifierStart_of_cased (by rw [moved]; exact there)) (by simp)
    · obtain ⟨here, there⟩ := Bool.and_eq_true_iff.mp foreign
      refine .foreign (isIdentifierPart_of_isForeign here low high) (isIdentifierPart_of_isForeign there ?_ ?_)
      · rw [moved]
        unfold shifted
        omega
      · rw [moved]
        unfold shifted
        omega
    · have own : c = subscriptIota := by
        have same : c.toNat = subscriptIota.toNat := Nat.le_antisymm (last ▸ high) (first ▸ low)
        rw [← Char.ofNat_toNat c, same, Char.ofNat_toNat]
      rw [← form, own, capital_subscriptIota]
      exact .iota rfl

private theorem isIdentifierPart_of_isDigit {c : Char} (digit : c.isDigit = true) : isIdentifierPart c = true := by
  have covered : rangesCover Property.identifierExtension 0x30 0x39 = true := by decide
  obtain ⟨low, high⟩ := Char.isDigit_iff_toNat.mp digit
  exact Bool.or_eq_true_iff.mpr (.inr (rangesContain_of_rangesCover covered low high))

/-- A capital form has only parts of identifiers when its letter is one. -/
theorem parts_capital (c : Char) : (∀ d ∈ capital c, isIdentifierPart d = true) ↔ isIdentifierPart c = true := by
  have kept := keepsIdentifiers_capital c
  generalize capital c = form at kept
  cases kept with
  | same => simp
  | start here there others =>
    refine iff_of_true (List.forall_mem_cons.mpr ⟨?_, others⟩) (isIdentifierPart_of_isIdentifierStart here)
    exact isIdentifierPart_of_isIdentifierStart there
  | foreign here there => simp [here, there]
  | iota here => exact here ▸ iff_of_true (by decide) (by decide)

/-- A capital form begins as identifiers do, or with a digit, when its letter does. -/
theorem begins_capital (c : Char) : ∃ first rest, capital c = first :: rest ∧
    (first.isDigit = true ∨ isIdentifierStart first = true ↔
      c.isDigit = true ∨ isIdentifierStart c = true ∨ c = subscriptIota) := by
  by_cases iota : c = subscriptIota
  · exact ⟨'Ι', [], iota ▸ capital_subscriptIota, iff_of_true (.inr (by decide)) (.inr (.inr iota))⟩
  · have kept := keepsIdentifiers_capital c
    generalize capital c = form at kept
    cases kept with
    | same => exact ⟨c, [], rfl, by simp [iota]⟩
    | start here there => exact ⟨_, _, rfl, iff_of_true (.inr there) (.inr (.inl here))⟩
    | foreign here there =>
      have apart : ∀ d : Char, isIdentifierPart d = false → ¬(d.isDigit = true ∨ isIdentifierStart d = true) := by
        rintro d other (digit | start)
        · rw [isIdentifierPart_of_isDigit digit] at other
          cases other
        · rw [isIdentifierPart_of_isIdentifierStart start] at other
          cases other
      refine ⟨_, [], rfl, iff_of_false (apart _ there) ?_⟩
      rintro (digit | start | same)
      · exact apart c here (.inl digit)
      · exact apart c here (.inr start)
      · exact iota same
    | iota here => exact absurd here iota

end Handoff.Text

namespace Handoff.Naming
open Text

/-- Joined words have only parts of identifiers when all letters and numbers of the label are. -/
theorem parts_joined (text : List Char) : (∀ c ∈ (words text).flatMap capitalize, isIdentifierPart c = true) ↔
    ∀ c ∈ text, isAlphanumeric c = true → isIdentifierPart c = true := by
  have each : ∀ word : List Char, (∀ c ∈ capitalize word, isIdentifierPart c = true) ↔ ∀ c ∈ word, isIdentifierPart c = true := by
    intro word
    cases word with
    | nil => exact Iff.rfl
    | cons first rest => rw [capitalize, List.forall_mem_append, parts_capital, List.forall_mem_cons]
  have filtered : (∀ c ∈ text, isAlphanumeric c = true → isIdentifierPart c = true) ↔
      ∀ c ∈ (words text).flatten, isIdentifierPart c = true := by
    rw [flatten_words]
    simp only [List.mem_filter, and_imp]
  rw [filtered, List.forall_mem_flatMap, List.forall_mem_flatten]
  exact forall₂_congr fun word _ => each word

/-- The name made of a label is an identifier exactly when all letters and numbers of the label
may be in one, and the first of them is an ASCII digit or may start one. -/
theorem isIdentifier_pascalCase_iff (label : String) : isIdentifier (pascalCase label) = true ↔
    (∀ c ∈ label.toList, isAlphanumeric c = true → isIdentifierPart c = true) ∧
      ∀ first, label.toList.find? isAlphanumeric = some first →
        first.isDigit = true ∨ isIdentifierStart first = true ∨ first = subscriptIota := by
  rw [← parts_joined]
  cases found : words label.toList with
  | nil =>
    have empty := words_eq_nil_iff.mp found
    have none : label.toList.find? isAlphanumeric = none := List.find?_eq_none.mpr fun c member => by simp [empty c member]
    rw [pascalCase, found, none]
    exact iff_of_true (by decide) ⟨by simp, by simp⟩
  | cons word others =>
    cases word with
    | nil => exact absurd rfl (ne_nil_of_mem_words (found ▸ List.mem_cons_self))
    | cons c more =>
      have leading : label.toList.find? isAlphanumeric = some c := by
        rw [← List.head?_filter, ← flatten_words, found]
        rfl
      obtain ⟨first, rest, capitals, begins⟩ := begins_capital c
      have joined : ((c :: more) :: others).flatMap capitalize = first :: (rest ++ more ++ others.flatMap capitalize) := by
        rw [List.flatMap_cons, capitalize, capitals, List.cons_append, List.cons_append]
      rw [leading, pascalCase, found, joined]
      simp only [Option.some_inj, forall_eq', ← begins]
      split
      next digit =>
        have spelled : (fallback ++ String.ofList (first :: (rest ++ more ++ others.flatMap capitalize))).toList =
            'C' :: ("omponent".toList ++ first :: (rest ++ more ++ others.flatMap capitalize)) := by
          rw [String.toList_append, String.toList_ofList]
          rfl
        have name : ∀ c ∈ 'C' :: "omponent".toList, isIdentifierPart c = true := by decide
        rw [isIdentifier_iff spelled, ← List.cons_append, List.forall_mem_append]
        constructor
        · rintro ⟨-, -, parts⟩
          exact ⟨parts, .inl digit⟩
        · rintro ⟨parts, -⟩
          exact ⟨by decide, name, parts⟩
      next other =>
        rw [isIdentifier_iff String.toList_ofList]
        constructor
        · rintro ⟨start, parts⟩
          exact ⟨parts, .inr start⟩
        · rintro ⟨parts, digit | start⟩
          · exact absurd digit other
          · exact ⟨start, parts⟩

/-- A digit of another script gets nothing put before it, as an ASCII digit does. -/
theorem not_isIdentifier_foreign_digit :
    pascalCase "\u0663 items" = "\u0663Items" ∧ pascalCase "3 items" = "Component3Items" ∧
      isIdentifier (pascalCase "\u0663 items") = false := by
  have foreign : pascalCase "\u0663 items" = "\u0663Items" := by decide +kernel
  refine ⟨foreign, by decide +kernel, ?_⟩
  rw [foreign]
  decide

end Handoff.Naming
