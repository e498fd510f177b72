import Handoff.Text.Property.Composition

/-!
Composed text. The same letter with marks can be written in several ways, and composed text holds
only one of them: marks on one letter stand in the order of their classes, and a composite takes the
place of a letter and its mark.
-/
namespace Handoff.Text

/-- The class of a mark, and 0 for what starts a new letter. -/
def combiningClass (c : Char) : Nat :=
  match Span.tableFind? Property.combiningClasses c.toNat with
  | some (_, value) => value
  | none => 0

/-! Syllables of Hangul, which are composed by a rule and not by a table. A syllable has one of 19
leading consonants, one of 21 vowels, and one of 27 trailing consonants or none. -/

def firstSyllable : Nat := 0xac00
def firstLeading : Nat := 0x1100
def firstVowel : Nat := 0x1161
/-- What comes before the first trailing consonant. -/
def noTrailing : Nat := 0x11a7

def isSyllable (code : Nat) : Bool :=
  decide (firstSyllable ≤ code) && decide (code < firstSyllable + 19 * 21 * 28)

/-- A syllable without its trailing consonant and that consonant, or else its leading consonant and
its vowel. -/
def syllableParts (code : Nat) : Nat × Nat :=
  let index := code - firstSyllable
  if index % 28 = 0 then (firstLeading + index / 588, firstVowel + index % 588 / 28)
  else (code - index % 28, noTrailing + index % 28)

def syllable? (first second : Nat) : Option Nat :=
  if firstLeading ≤ first ∧ first < firstLeading + 19
      ∧ firstVowel ≤ second ∧ second < firstVowel + 21 then
    some (firstSyllable + ((first - firstLeading) * 21 + (second - firstVowel)) * 28)
  else if isSyllable first ∧ (first - firstSyllable) % 28 = 0
      ∧ noTrailing < second ∧ second < noTrailing + 28 then
    some (first + (second - noTrailing))
  else none

/-! Taking apart -/

/-- What a character is made of, in one step: two characters, or another one that it repeats. -/
def parts? (code : Nat) : Option (List Nat) :=
  if isSyllable code then some [(syllableParts code).1, (syllableParts code).2]
  else
    match lookUp? Property.composites code, lookUp? Property.splits code,
      lookUp? Property.singletons code with
    | some (first, second), _, _ | none, some (first, second), _ => some [first, second]
    | none, none, some same => some [same]
    | none, none, none => none

/-- A character taken apart in a number of steps. -/
def decompose : Nat → Nat → List Nat
  | 0, code => [code]
  | steps + 1, code =>
    match parts? code with
    | some codes => codes.flatMap (decompose steps)
    | none => [code]

/-- The number of steps after which every character is taken apart. -/
def decompositionSteps : Nat := 4

def decomposed (chars : List Char) : List Char :=
  chars.flatMap fun c => (decompose decompositionSteps c.toNat).map Char.ofNat

/-! Ordering marks -/

/-- Puts a character before ordered text, and a mark behind the marks of lower classes. -/
def insertMark (c : Char) : List Char → List Char
  | [] => [c]
  | d :: rest =>
    if 0 < combiningClass d ∧ combiningClass d < combiningClass c then d :: insertMark c rest
    else c :: d :: rest

/-- Text whose marks are in the order of their classes. -/
def ordered (chars : List Char) : List Char := chars.foldr insertMark []

/-! Putting together -/

/-- The first code point that can be the second part of a composite. -/
def firstSecond : Nat := 0x300

def composite? (first second : Char) : Option Char :=
  if second.toNat < firstSecond then none
  else
    match syllable? first.toNat second.toNat with
    | some code => some (Char.ofNat code)
    | none =>
      (Property.composites.find? fun entry => entry.2 == (first.toNat, second.toNat)).map
        fun entry => Char.ofNat entry.1

/-- Puts together a letter, the marks between it and the rest in reverse, and the rest. A mark joins
the letter if no mark of its class or a higher one stands between them. -/
def composeAfter (letter : Char) (marks : List Char) : List Char → List Char
  | [] => letter :: marks.reverse
  | c :: rest =>
    let reaches := match marks with
      | [] => true
      | mark :: _ => decide (combiningClass mark < combiningClass c)
    match if reaches then composite? letter c else none with
    | some whole => composeAfter whole marks rest
    | none =>
      if combiningClass c = 0 then letter :: (marks.reverse ++ composeAfter c [] rest)
      else composeAfter letter (c :: marks) rest

/-- Puts together all letters of a text and their marks. -/
def compose : List Char → List Char
  | [] => []
  | c :: rest => if combiningClass c = 0 then composeAfter c [] rest else c :: compose rest

def composed (chars : List Char) : List Char := compose (ordered (decomposed chars))

end Handoff.Text
