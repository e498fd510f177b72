import Handoff.Proofs.NearestColors

/-! Looking up the variable of a colour. A token is for the colour that its key is read as, and
of several tokens for one colour the last one counts. The keys of an accepted manifest are all
read as colours, and tokens are for one colour when their keys differ in nothing but the case
of letters and the number sign. -/

namespace Handoff

namespace Color
open Text

/-- The characters of a key without the number sign that may precede its digits. -/
def unmarked (key : String) : List Char :=
  match key.toList with
  | '#' :: rest => rest
  | chars => chars

theorem unmarked_of_digits {key : String} {marks digits : List Char} (spelled : key.toList = marks ++ digits)
    (front : marks = [] ∨ marks = ['#']) (hexadecimal : ∀ c ∈ digits, c ∈ hexDigits) : unmarked key = digits := by
  cases front with
  | inl none =>
    rw [none, List.nil_append] at spelled
    unfold unmarked
    split
    next rest signed =>
      have digit := hexadecimal '#' (spelled ▸ signed ▸ List.mem_cons_self)
      exact absurd digit (by decide)
    next => exact spelled
  | inr one =>
    rw [unmarked, spelled, one]
    rfl

private theorem hexChannel?_toLower {high low : Char} (first : high ∈ hexDigits) (second : low ∈ hexDigits) :
    hexChannel? high.toLower low.toLower = hexChannel? high low := by
  have same : ∀ c ∈ hexDigits, hexValue? c.toLower = hexValue? c := by decide
  simp only [hexChannel?, hexNumber?, List.foldlM_cons, List.foldlM_nil, same high first, same low second]

/-- The colour of six digits. -/
def ofDigits? : List Char → Option Color
  | [a, b, c, d, e, f] => do
    let red ← hexChannel? a b
    let green ← hexChannel? c d
    let blue ← hexChannel? e f
    return rgb red green blue
  | _ => none

private theorem ofHex?_eq (key : String) : ofHex? key = ofDigits? (unmarked key) := rfl

private theorem ofDigits?_map_toLower {digits : List Char} (six : digits.length = 6) (hexadecimal : ∀ c ∈ digits, c ∈ hexDigits) :
    ofDigits? (digits.map Char.toLower) = ofDigits? digits := by
  match digits, six with
  | [a, b, c, d, e, f], _ =>
    simp only [List.forall_mem_cons] at hexadecimal
    obtain ⟨first, second, third, fourth, fifth, sixth, -⟩ := hexadecimal
    simp only [List.map_cons, List.map_nil, ofDigits?, hexChannel?_toLower first second, hexChannel?_toLower third fourth,
      hexChannel?_toLower fifth sixth]

private theorem length_hex (color : Color) : color.hex.length = 6 := by
  rw [hex, String.length_ofList]
  rfl

theorem hex_eq_iff {a b : Color} : a.hex = b.hex ↔ a.IsAlike b := by
  constructor
  · intro same
    have read := ofHex?_hex a
    rw [same, ofHex?_hex] at read
    have alike := a.isAlike_rgb
    rw [← Option.some.inj read] at alike
    simpa only [IsAlike, rgb, rgba] using alike
  · intro alike
    obtain ⟨red, green, blue⟩ := alike
    rw [hex, hex, red, green, blue]

end Color

namespace Classes.TokenMap
open Text Color

/-- What a text is the name of: the text without blanks at its ends, led by two hyphens. -/
inductive IsVariable (written : String) : String → Prop
  | led (rest : String) (whole : trim written = "--" ++ rest) : IsVariable written ("--" ++ rest)
  | plain (other : ∀ rest, trim written ≠ "--" ++ rest) : IsVariable written ("--" ++ trim written)

theorem isVariable_iff {written name : String} : IsVariable written name ↔ name = normalizeVariable written := by
  have led : "--".toList.isPrefixOf (trim written).toList = true ↔ ∃ rest, trim written = "--" ++ rest := by
    rw [List.isPrefixOf_iff_prefix]
    constructor
    · intro begins
      obtain ⟨rest, whole⟩ := begins
      exact ⟨String.ofList rest, String.toList_injective (by rw [← whole]; simp)⟩
    · intro begins
      obtain ⟨rest, whole⟩ := begins
      rw [whole, String.toList_append]
      exact List.prefix_append _ _
  unfold normalizeVariable
  dsimp only
  split
  next begins =>
    obtain ⟨rest, whole⟩ := led.mp begins
    constructor
    · intro named
      cases named with
      | led other same => exact same.symm
      | plain other => exact absurd whole (other rest)
    · intro same
      rw [same, whole]
      exact .led rest whole
  next begins =>
    constructor
    · intro named
      cases named with
      | led rest same => exact absurd (led.mpr ⟨rest, same⟩) begins
      | plain => rfl
    · intro same
      rw [same]
      exact .plain fun rest whole => begins (led.mpr ⟨rest, whole⟩)

/-- The digits of a key in small letters, without the number sign that may precede them. -/
def plainKey (key : String) : String := String.ofList ((unmarked key).map Char.toLower)

theorem normalizeColor_eq {key : String} (valid : Manifest.isHexColor key = true) : normalizeColor key = plainKey key := by
  obtain ⟨marks, digits, spelled, front, -, hexadecimal⟩ := exists_digits valid
  rw [normalizeColor_of_digits spelled front hexadecimal, plainKey, unmarked_of_digits spelled front hexadecimal]

/-- A key and what is made of it for the map are read as one colour. -/
theorem ofHex?_normalizeColor {key : String} (valid : Manifest.isHexColor key = true) : ofHex? (normalizeColor key) = ofHex? key := by
  obtain ⟨marks, digits, spelled, front, six, hexadecimal⟩ := exists_digits valid
  have whole := unmarked_of_digits spelled front hexadecimal
  have small : ∀ c ∈ digits.map Char.toLower, c ∈ hexDigits := by
    intro c member
    obtain ⟨digit, inside, rfl⟩ := List.mem_map.mp member
    exact (by decide : ∀ c ∈ hexDigits, c.toLower ∈ hexDigits) digit (hexadecimal digit inside)
  have smallWhole : unmarked (normalizeColor key) = digits.map Char.toLower := by
    rw [normalizeColor_of_digits spelled front hexadecimal]
    have written : (String.ofList (digits.map Char.toLower)).toList = [] ++ digits.map Char.toLower := String.toList_ofList
    exact unmarked_of_digits written (.inl rfl) small
  rw [ofHex?_eq, ofHex?_eq, smallWhole, whole, ofDigits?_map_toLower six hexadecimal]

/-- The three readers of a key agree on the colour of one that is valid. -/
theorem exists_read {key : String} (valid : Manifest.isHexColor key = true) :
    ∃ color : Color, ofHex? key = some color ∧ normalizeColor key = color.hex := by
  obtain ⟨color, same⟩ := exists_color_of_isHexColor valid
  refine ⟨rgb color.red color.green color.blue, ?_, same.trans (hex_eq_iff.mpr color.isAlike_rgb)⟩
  rw [← ofHex?_normalizeColor valid, same, ofHex?_hex]

end Classes.TokenMap

namespace Manifest
open Classes TokenMap

/-- Whether a token is for a colour: its key is read as the channels of the colour. -/
def IsTokenOf (color : Color) (token : String × String) : Prop :=
  ∃ read, Color.ofHex? token.1 = some read ∧ read.IsAlike color

theorem isTokenOf_iff {color : Color} {token : String × String} (valid : isHexColor token.1 = true) :
    IsTokenOf color token ↔ normalizeColor token.1 = color.hex := by
  obtain ⟨read, found, same⟩ := exists_read valid
  rw [same, Color.hex_eq_iff]
  constructor
  · intro own
    obtain ⟨other, known, alike⟩ := own
    cases found.symm.trans known
    exact alike
  · exact fun alike => ⟨read, found, alike⟩

/-- The token that counts for a colour: the last one that is for it. -/
def IsLastTokenOf (manifest : Manifest) (color : Color) (token : String × String) : Prop :=
  ∃ before behind, manifest.tokens = before ++ token :: behind ∧ IsTokenOf color token ∧ ∀ other ∈ behind, ¬IsTokenOf color other

private theorem exists_last_of_mem {manifest : Manifest} {color : Color} {token : String × String}
    (listed : token ∈ manifest.tokens) (own : IsTokenOf color token) : ∃ last, manifest.IsLastTokenOf color last := by
  classical
  have some : (manifest.tokens.reverse.find? (IsTokenOf color ·)).isSome = true := by
    rw [List.find?_isSome]
    exact ⟨token, List.mem_reverse.mpr listed, decide_eq_true own⟩
  obtain ⟨last, found⟩ := Option.isSome_iff_exists.mp some
  obtain ⟨own, behind, before, split, others⟩ := List.find?_eq_some_iff_append.mp found
  refine ⟨last, before.reverse, behind.reverse, ?_, of_decide_eq_true own, ?_⟩
  · rw [← List.reverse_reverse manifest.tokens, split]
    simp
  · intro other member
    simpa using others other (List.mem_reverse.mp member)

/-- How the variables of a manifest's tokens are found by colours. -/
structure LooksUp (manifest : Manifest) : Prop where
  readable : ∀ token ∈ manifest.tokens, ∃ color, Color.ofHex? token.1 = some color
  known : ∀ color : Color, (∃ name, manifest.tokenMap.get? color.hex = some name) ↔ ∃ token ∈ manifest.tokens, IsTokenOf color token
  last : ∀ (color : Color) name, manifest.tokenMap.get? color.hex = some name ↔
    ∃ token, manifest.IsLastTokenOf color token ∧ IsVariable token.2 name
  alike : ∀ first ∈ manifest.tokens, ∀ second ∈ manifest.tokens,
    (∃ color, IsTokenOf color first ∧ IsTokenOf color second) ↔ plainKey first.1 = plainKey second.1
  keys : manifest.tokenMap.toList.map Prod.fst = (manifest.tokens.map fun token => plainKey token.1).eraseDups
  distinct : (manifest.tokenMap.toList.map Prod.fst).Nodup
  digits : ∀ entry ∈ manifest.tokenMap.toList, entry.1.length = 6 ∧ ∀ c ∈ entry.1.toList, c ∈ "0123456789abcdef".toList

variable {manifest : Manifest} (accepted : manifest.IsAccepted)
include accepted

private theorem IsAccepted.get?_eq_some_iff {color : Color} {name : String} :
    manifest.tokenMap.get? color.hex = some name ↔ ∃ token, manifest.IsLastTokenOf color token ∧ IsVariable token.2 name := by
  have readings : ∀ token ∈ manifest.tokens, IsTokenOf color token ↔ normalizeColor token.1 = color.hex :=
    fun token listed => isTokenOf_iff (accepted.isHexColor token listed)
  have looked : manifest.tokenMap.get? color.hex =
      (OrderedMap.ofList (manifest.tokens.map fun token => (normalizeColor token.1, normalizeVariable token.2))).get? color.hex := by
    rw [tokenMap, TokenMap.ofList_eq, TokenMap.get?, normalizeColor_hex]
  rw [looked, OrderedMap.get?_ofList_eq_some_iff]
  constructor
  · intro found
    obtain ⟨before, behind, split, others⟩ := found
    obtain ⟨first, rest, whole, -, later⟩ := List.map_eq_append_iff.mp split
    obtain ⟨token, last, rfl, made, rfl⟩ := List.map_eq_cons_iff.mp later
    obtain ⟨own, named⟩ := Prod.mk.inj made
    refine ⟨token, ⟨first, last, whole, (readings token (by simp [whole])).mpr own, fun other member is => ?_⟩, ?_⟩
    · exact others _ (List.mem_map_of_mem member) ((readings other (by simp [whole, member])).mp is)
    · exact isVariable_iff.mpr named.symm
  · intro found
    obtain ⟨token, ⟨before, behind, whole, own, others⟩, named⟩ := found
    refine ⟨before.map fun token => (normalizeColor token.1, normalizeVariable token.2),
      behind.map fun token => (normalizeColor token.1, normalizeVariable token.2), ?_, ?_⟩
    · rw [whole, List.map_append, List.map_cons, (readings token (by simp [whole])).mp own, ← isVariable_iff.mp named]
    · intro entry member
      obtain ⟨other, inside, rfl⟩ := List.mem_map.mp member
      exact fun same => others other inside ((readings other (by simp [whole, inside])).mpr same)

private theorem IsAccepted.keys_tokenMap :
    manifest.tokenMap.toList.map Prod.fst = (manifest.tokens.map fun token => plainKey token.1).eraseDups := by
  rw [tokenMap, TokenMap.ofList_eq, TokenMap.toList, OrderedMap.keys_ofList, List.map_map]
  exact congrArg List.eraseDups (List.map_congr_left fun token listed => normalizeColor_eq (accepted.isHexColor token listed))

/-- Tokens of an accepted manifest are for one colour when their keys have the same digits. -/
theorem IsAccepted.alike_iff {first second : String × String} (listed : first ∈ manifest.tokens) (also : second ∈ manifest.tokens) :
    (∃ color, IsTokenOf color first ∧ IsTokenOf color second) ↔ plainKey first.1 = plainKey second.1 := by
  have valid := accepted.isHexColor first listed
  have validToo := accepted.isHexColor second also
  rw [← normalizeColor_eq valid, ← normalizeColor_eq validToo]
  constructor
  · intro both
    obtain ⟨color, own, other⟩ := both
    exact ((isTokenOf_iff valid).mp own).trans ((isTokenOf_iff validToo).mp other).symm
  · intro same
    obtain ⟨color, -, spelled⟩ := exists_read valid
    exact ⟨color, (isTokenOf_iff valid).mpr spelled, (isTokenOf_iff validToo).mpr (same ▸ spelled)⟩

/-- The variable of a colour is that of the last token whose key is read as the colour, in
every manifest that is accepted. -/
theorem tokenMap_looksUp : manifest.LooksUp where
  readable token listed := by
    obtain ⟨color, found, -⟩ := exists_read (accepted.isHexColor token listed)
    exact ⟨color, found⟩
  known color := by
    constructor
    · intro named
      obtain ⟨name, found⟩ := named
      obtain ⟨token, ⟨before, behind, whole, own, -⟩, -⟩ := accepted.get?_eq_some_iff.mp found
      exact ⟨token, by simp [whole], own⟩
    · intro some
      obtain ⟨token, listed, own⟩ := some
      obtain ⟨last, counts⟩ := exists_last_of_mem listed own
      exact ⟨_, accepted.get?_eq_some_iff.mpr ⟨last, counts, isVariable_iff.mpr rfl⟩⟩
  last _ _ := accepted.get?_eq_some_iff
  alike _ listed _ also := accepted.alike_iff listed also
  keys := accepted.keys_tokenMap
  distinct := manifest.tokenMap.entries.distinct
  digits entry listed := by
    obtain ⟨color, same, -⟩ := accepted.exists_color listed
    rw [same]
    exact ⟨color.length_hex, fun c member => mem_smallDigits member⟩

omit accepted in
/-- One colour in two spellings, the later of which counts, and another one between them. -/
theorem tokenMap_looksUp_brand :
    let manifest := branded [("#2563EB", "old"), ("FF0000", " --accent "), ("2563eb", "brand")]
    manifest.IsAccepted ∧ manifest.LooksUp ∧ manifest.tokenMap.toList = [("2563eb", "--brand"), ("ff0000", "--accent")] := by
  intro manifest
  have accepted : manifest.IsAccepted := by decide +kernel
  exact ⟨accepted, tokenMap_looksUp accepted, by decide +kernel⟩

end Manifest

end Handoff
