import Handoff.Proofs.ClassCharacters
import Handoff.Proofs.PageSections
import Handoff.Proofs.StylesheetReading

/-! The colours of tokens. A class that refers to a variable shows the colour it stands for
when the stylesheet declares the variable last with that colour. A manifest that is accepted
keeps its classes whole unless a variable has a blank, and their colours unless colours
share a variable or a variable has a name that no custom property can have. -/

namespace Handoff

namespace Text

theorem trim_of_solid {s : String} (solid : ∀ c ∈ s.toList, isBlank c = false) : trim s = s := by
  rw [trim, dropWhile_of_none solid, dropFinal_of_none solid, String.ofList_toList]

/-- The digits that a colour may be given with. -/
def hexDigits : List Char := "0123456789abcdefABCDEF".toList

private theorem mem_hexDigits {c : Char} (digit : (hexValue? c).isSome = true) : c ∈ hexDigits := by
  have ascii := Naming.forall_of_codes (fun c => (hexValue? c).isSome = true → c ∈ hexDigits) 128 (by decide) c
  have small : c.toNat < 128 := by
    have bound : ∀ last : Char, c ≤ last → c.toNat ≤ last.toNat := fun last least => UInt32.le_iff_toNat_le.mp least
    unfold hexValue? at digit
    split at digit
    next number =>
      rw [Char.isDigit, Bool.and_eq_true, decide_eq_true_eq, decide_eq_true_eq] at number
      exact Nat.lt_of_le_of_lt (bound '9' number.2) (by decide)
    next =>
      split at digit
      next letter => exact Nat.lt_of_le_of_lt (bound _ letter.2) (by decide)
      next =>
        split at digit
        next letter => exact Nat.lt_of_le_of_lt (bound _ letter.2) (by decide)
        next => cases digit
  exact ascii small digit

theorem digit_of_mem_hexDigits : ∀ c ∈ hexDigits, isBlank c = false ∧ (c == '#') = false ∧
    ∃ value < 16, c.toLower = Nat.digitChar value := by
  decide

private theorem exists_byte {high low : Char} (first : high ∈ hexDigits) (second : low ∈ hexDigits) :
    ∃ byte : UInt8, [high.toLower, low.toLower] = hexPair byte.toNat := by
  obtain ⟨-, -, upper, upperSmall, upperSame⟩ := digit_of_mem_hexDigits high first
  obtain ⟨-, -, lower, lowerSmall, lowerSame⟩ := digit_of_mem_hexDigits low second
  have value : (UInt8.ofNat (16 * upper + lower)).toNat = 16 * upper + lower :=
    UInt8.toNat_ofNat_of_lt' (by simp only [UInt8.size]; omega)
  have quotient : (16 * upper + lower) / 16 = upper := by omega
  have remainder : (16 * upper + lower) % 16 = lower := by omega
  exact ⟨_, by rw [value, hexPair, quotient, remainder, upperSame, lowerSame]⟩

end Text

namespace Classes
open Text

namespace TokenMap

theorem ofList_eq (pairs : List (String × String)) :
    ofList pairs = ⟨.ofList (pairs.map fun pair => (normalizeColor pair.1, normalizeVariable pair.2))⟩ := by
  have step : ∀ (pairs : List (String × String)) (map : OrderedMap String String),
      pairs.foldl (fun tokens pair => tokens.insert pair.1 pair.2) ⟨map⟩ =
        (⟨(pairs.map fun pair => (normalizeColor pair.1, normalizeVariable pair.2)).foldl
          (fun map entry => map.insert entry.1 entry.2) map⟩ : TokenMap) := by
    intro pairs
    induction pairs with
    | nil => exact fun _ => rfl
    | cons pair pairs ih =>
      intro map
      have inserted : (⟨map⟩ : TokenMap).insert pair.1 pair.2 =
          ⟨map.insert (normalizeColor pair.1) (normalizeVariable pair.2)⟩ := rfl
      rw [List.foldl_cons, List.map_cons, List.foldl_cons, inserted, ih]
  exact step pairs .empty

theorem normalizeColor_hex (color : Color) : normalizeColor color.hex = color.hex := by
  have unmarked : ∀ c ∈ color.hex.toList, (c == '#') = false := fun c member =>
    (by decide : ∀ c ∈ smallDigits, (c == '#') = false) c (mem_smallDigits member)
  have small : ∀ c ∈ color.hex.toList, c.toLower = id c := fun c member =>
    (by decide : ∀ c ∈ smallDigits, c.toLower = id c) c (mem_smallDigits member)
  rw [normalizeColor, trim_of_solid (isSolid_hex color), dropWhile_of_none unmarked, List.map_congr_left small, List.map_id,
    String.ofList_toList]

theorem get?_hex_iff {tokens : TokenMap} {color : Color} {name : String} :
    tokens.get? color.hex = some name ↔ (color.hex, name) ∈ tokens.toList := by
  rw [get?, normalizeColor_hex]
  exact OrderedMap.get?_eq_some_iff

/-- A key that a token may have: six digits, which a number sign may precede. -/
theorem exists_digits {key : String} (valid : Manifest.isHexColor key = true) :
    ∃ marks digits, key.toList = marks ++ digits ∧ (marks = [] ∨ marks = ['#']) ∧ digits.length = 6 ∧ ∀ c ∈ digits, c ∈ hexDigits := by
  unfold Manifest.isHexColor at valid
  dsimp only at valid
  split at valid
  next rest spelled =>
    rw [Bool.and_eq_true, beq_iff_eq, List.all_eq_true] at valid
    exact ⟨['#'], rest, spelled, .inr rfl, valid.1, fun c member => mem_hexDigits (valid.2 c member)⟩
  next =>
    rw [Bool.and_eq_true, beq_iff_eq, List.all_eq_true] at valid
    exact ⟨[], key.toList, rfl, .inl rfl, valid.1, fun c member => mem_hexDigits (valid.2 c member)⟩

theorem normalizeColor_of_digits {key : String} {marks digits : List Char} (spelled : key.toList = marks ++ digits)
    (front : marks = [] ∨ marks = ['#']) (hexadecimal : ∀ c ∈ digits, c ∈ hexDigits) :
    normalizeColor key = String.ofList (digits.map Char.toLower) := by
  have sign : ∀ c ∈ marks, c = '#' := by
    cases front with
    | inl none => simp [none]
    | inr one => simp [one]
  have solid : ∀ c ∈ key.toList, isBlank c = false := by
    rw [spelled]
    refine List.forall_mem_append.mpr ⟨fun c member => sign c member ▸ (by decide), fun c member => ?_⟩
    exact (digit_of_mem_hexDigits c (hexadecimal c member)).1
  have marked : ∀ c ∈ marks, (c == '#') = true := fun c member => beq_iff_eq.mpr (sign c member)
  have unmarked : ∀ c ∈ digits, (c == '#') = false := fun c member => (digit_of_mem_hexDigits c (hexadecimal c member)).2.1
  rw [normalizeColor, trim_of_solid solid, spelled, List.dropWhile_append_of_pos marked, dropWhile_of_none unmarked]

theorem exists_color_of_isHexColor {key : String} (valid : Manifest.isHexColor key = true) :
    ∃ color : Color, normalizeColor key = color.hex := by
  obtain ⟨marks, digits, spelled, front, six, hexadecimal⟩ := exists_digits valid
  rw [normalizeColor_of_digits spelled front hexadecimal]
  match digits, six with
  | [a, b, c, d, e, f], _ =>
    simp only [List.forall_mem_cons] at hexadecimal
    obtain ⟨first, second, third, fourth, fifth, sixth, -⟩ := hexadecimal
    obtain ⟨red, redSame⟩ := exists_byte first second
    obtain ⟨green, greenSame⟩ := exists_byte third fourth
    obtain ⟨blue, blueSame⟩ := exists_byte fifth sixth
    refine ⟨.rgb red green blue, congrArg String.ofList ?_⟩
    change [a.toLower, b.toLower] ++ ([c.toLower, d.toLower] ++ [e.toLower, f.toLower]) = _
    rw [redSame, greenSame, blueSame]
    rfl

/-- The colours of an accepted manifest's tokens are those that classes are looked up by. -/
theorem exists_color {pairs : List (String × String)} (valid : ∀ pair ∈ pairs, Manifest.isHexColor pair.1 = true)
    {token : String × String} (listed : token ∈ (ofList pairs).toList) : ∃ color : Color, token.1 = color.hex := by
  rw [ofList_eq] at listed
  obtain ⟨pair, member, rfl⟩ := List.mem_map.mp (OrderedMap.mem_of_mem_ofList listed)
  exact exists_color_of_isHexColor (valid pair member)

end TokenMap

/-- What follows a colour in a class: nothing, or its opacity. -/
def IsOpacityMark (mark : String) : Prop := mark = "" ∨ ∃ percent : Int, mark = "/" ++ toString percent

/-- A class that refers to a variable. -/
def IsTokenClass (purpose name cls : String) : Prop :=
  ∃ mark, IsOpacityMark mark ∧ cls = purpose ++ "-[var(" ++ name ++ ")]" ++ mark

def isPercentPart (c : Char) : Bool := c.isDigit || c = '-'

private theorem isPercentPart_toString (percent : Int) : ∀ c ∈ (toString percent).toList, isPercentPart c = true := by
  have digits : ∀ n : Nat, ∀ c ∈ (toString n).toList, isPercentPart c = true := by
    intro n c member
    rw [Nat.toString_eq_ofList_toDigits, String.toList_ofList] at member
    simp [isPercentPart, Nat.isDigit_of_mem_toDigits (by decide) (by decide) member]
  cases percent with
  | ofNat n => exact digits n
  | negSucc n =>
    have signed : toString (Int.negSucc n) = "-" ++ toString (n + 1) := rfl
    rw [signed, String.toList_append]
    exact List.forall_mem_append.mpr ⟨by decide, digits (n + 1)⟩

/-- Read from its end, a class that refers to a variable has the mark before the name. -/
theorem dropWhile_form (name : String) {mark : String} (known : IsOpacityMark mark) :
    ∃ slash, (slash = [] ∨ slash = ['/']) ∧
      (name ++ ")]" ++ mark).toList.reverse.dropWhile isPercentPart = slash ++ ']' :: ')' :: name.toList.reverse := by
  rcases known with rfl | ⟨percent, rfl⟩
  · exact ⟨[], .inl rfl, by simp [isPercentPart]⟩
  · refine ⟨['/'], .inr rfl, ?_⟩
    have digits : ∀ c ∈ (toString percent).toList.reverse, isPercentPart c = true :=
      fun c member => isPercentPart_toString percent c (List.mem_reverse.mp member)
    have spelled : (name ++ ")]" ++ ("/" ++ toString percent)).toList.reverse =
        (toString percent).toList.reverse ++ '/' :: ']' :: ')' :: name.toList.reverse := by simp
    rw [spelled, List.dropWhile_append_of_pos digits]
    rfl

private theorem form_injective {first second mark other : String} (known : IsOpacityMark mark) (also : IsOpacityMark other)
    (same : first ++ ")]" ++ mark = second ++ ")]" ++ other) : first = second := by
  obtain ⟨left, leftCases, leftText⟩ := dropWhile_form first known
  obtain ⟨right, rightCases, rightText⟩ := dropWhile_form second also
  rw [same, rightText] at leftText
  have reversed : second.toList.reverse = first.toList.reverse := by
    rcases leftCases with rfl | rfl <;> rcases rightCases with rfl | rfl <;> simp_all
  exact String.toList_injective (List.reverse_injective reversed.symm)

/-- What follows a colour in its class. -/
def opacityMark (color : Color) : String := if color.isTranslucent then "/" ++ toString (percentage color.alpha) else ""

theorem colorClass_eq (purpose : String) (color : Color) (tokens : Option TokenMap) :
    colorClass purpose color tokens = purpose ++ "-" ++ colorName color tokens ++ opacityMark color := rfl

theorem isOpacityMark_opacityMark (color : Color) : IsOpacityMark (opacityMark color) := by
  unfold opacityMark
  split
  · exact .inr ⟨_, rfl⟩
  · exact .inl rfl

private theorem isSolid_opacityMark (color : Color) : IsSolid (opacityMark color) := by
  unfold opacityMark
  split
  · exact IsSolid.append (by decide) (isSolid_toString _)
  · decide

/-- No named colour begins as a variable does. -/
theorem head?_palette {entry : NamedColor} (listed : entry ∈ palette) :
    ∃ c, entry.name.toList.head? = some c ∧ c ≠ '[' := by
  have named : (palette.all fun entry => entry.name != "") = true := by decide +kernel
  have nonempty : entry.name ≠ "" := bne_iff_ne.mp (List.all_eq_true.mp named entry listed)
  obtain ⟨c, rest, spelled⟩ := List.exists_cons_of_ne_nil (mt String.toList_eq_nil_iff.mp nonempty)
  refine ⟨c, by rw [spelled, List.head?_cons], ?_⟩
  rintro rfl
  exact absurd (isNameCharacter_of_mem_palette listed '[' (spelled ▸ List.mem_cons_self)) (by decide)

/-- A colour's class refers to the variable that the colour is looked up to, and to no other. -/
theorem isTokenClass_colorClass {purpose : String} {color : Color} {tokens : TokenMap} {name : String} :
    IsTokenClass purpose name (colorClass purpose color (some tokens)) ↔ tokens.get? color.hex = some name := by
  constructor
  · rintro ⟨other, known, same⟩
    have shown : (colorName color (some tokens) ++ opacityMark color).toList =
        "[var(".toList ++ (name ++ ")]" ++ other).toList := by
      simpa [colorClass_eq] using congrArg String.toList same
    rcases colorName_cases color (some tokens) with ⟨found, looked, spelled⟩ | ⟨entry, listed, spelled⟩ | spelled
    · have inner : found ++ ")]" ++ opacityMark color = name ++ ")]" ++ other := by
        rw [spelled] at shown
        exact String.toList_injective (by simpa using shown)
      exact form_injective (isOpacityMark_opacityMark color) known inner ▸ looked
    · obtain ⟨c, begins, different⟩ := head?_palette listed
      have first := congrArg List.head? shown
      rw [spelled, String.toList_append, List.head?_append, begins] at first
      exact absurd (Option.some.inj first) different
    · rw [spelled] at shown
      exact absurd shown (by simp)
  · intro known
    have spelled : colorName color (some tokens) = "[var(" ++ name ++ ")]" := by
      rw [colorName, Option.bind_some, known]
    refine ⟨_, isOpacityMark_opacityMark color, ?_⟩
    rw [colorClass_eq, spelled]
    simp only [String.append_assoc]
    rfl

/-- A class that refers to a variable is in one piece if what it is made of is. -/
theorem isSolid_tokenClass {purpose : String} {color : Color} {tokens : TokenMap} {name : String}
    (known : tokens.get? color.hex = some name) :
    IsSolid (colorClass purpose color (some tokens)) ↔ IsSolid purpose ∧ IsSolid name := by
  have spelled : colorName color (some tokens) = "[var(" ++ name ++ ")]" := by rw [colorName, Option.bind_some, known]
  have opening : IsSolid "[var(" := by decide
  have closing : IsSolid ")]" := by decide
  have hyphen : IsSolid "-" := by decide
  simp only [colorClass_eq, spelled, isSolid_append_iff, isSolid_opacityMark, opening, closing, hyphen, true_and, and_true]

end Classes

namespace Manifest
open Classes Css

theorem IsAccepted.isHexColor {manifest : Manifest} (accepted : manifest.IsAccepted) :
    ∀ token ∈ manifest.tokens, isHexColor token.1 = true := by
  simp only [IsAccepted, flaws, List.append_eq_nil_iff, List.flatMap_eq_nil_iff, tokenFlaws, flawIf_eq_nil,
    Bool.not_eq_false'] at accepted
  exact fun token listed => (accepted.1.2 token listed).1

theorem IsAccepted.exists_color {manifest : Manifest} (accepted : manifest.IsAccepted) {token : String × String}
    (listed : token ∈ manifest.tokenMap.toList) :
    ∃ color : Color, token.1 = color.hex ∧ manifest.tokenMap.get? color.hex = some token.2 := by
  obtain ⟨color, same⟩ := TokenMap.exists_color accepted.isHexColor listed
  exact ⟨color, same, TokenMap.get?_hex_iff.mpr (same ▸ listed)⟩

/-- Every class that refers to a variable for a colour is in one piece if its purpose is. -/
def KeepsWhole (manifest : Manifest) : Prop :=
  ∀ purpose color name, IsTokenClass purpose name (colorClass purpose color (some manifest.tokenMap)) →
    IsSolid purpose → IsSolid (colorClass purpose color (some manifest.tokenMap))

/-- Where a class refers to a variable for a colour, the stylesheet gives it that colour. -/
def KeepsColors (manifest : Manifest) : Prop :=
  ∀ purpose color name, IsTokenClass purpose name (colorClass purpose color (some manifest.tokenMap)) →
    lastValue? (declarations (Site.stylesheet manifest.tokenMap)) name = some ("#" ++ color.hex)

theorem keepsWhole_iff {manifest : Manifest} (accepted : manifest.IsAccepted) :
    manifest.KeepsWhole ↔ ∀ token ∈ manifest.tokenMap.toList, IsSolid token.2 := by
  constructor
  · intro whole token listed
    obtain ⟨color, -, known⟩ := accepted.exists_color listed
    have solid := whole "bg" color token.2 (isTokenClass_colorClass.mpr known) (by decide)
    exact ((isSolid_tokenClass known).mp solid).2
  · intro solid purpose color name refers word
    have known := isTokenClass_colorClass.mp refers
    exact (isSolid_tokenClass known).mpr ⟨word, solid _ (TokenMap.get?_hex_iff.mp known)⟩

theorem keepsColors_iff {manifest : Manifest} (accepted : manifest.IsAccepted)
    (named : ∀ token ∈ manifest.tokenMap.toList, isPropertyName token.2 = true) :
    manifest.KeepsColors ↔ (manifest.tokenMap.toList.map Prod.snd).Nodup := by
  have declarable : ∀ token ∈ manifest.tokenMap.toList, Site.IsDeclarable token := by
    intro token listed
    obtain ⟨color, same, -⟩ := accepted.exists_color listed
    refine ⟨named token listed, fun c member => ?_⟩
    exact (by decide : ∀ c ∈ smallDigits, isNameChar c = true) c (mem_smallDigits (same ▸ member))
  have declared := Site.declarations_stylesheet declarable
  have entries : manifest.tokenMap.toList.Nodup := List.Nodup.of_map Prod.fst manifest.tokenMap.entries.distinct
  constructor
  · intro kept
    -- one variable has one value at the end, so that both colours are the same key of the tokens
    refine List.Nodup.map_on (fun first left second right same => ?_) entries
    obtain ⟨color, colorSame, known⟩ := accepted.exists_color left
    obtain ⟨other, otherSame, also⟩ := accepted.exists_color right
    have value := kept "bg" color first.2 (isTokenClass_colorClass.mpr known)
    have again := kept "bg" other second.2 (isTokenClass_colorClass.mpr also)
    rw [← same, value] at again
    have digits : color.hex = other.hex := String.append_right_inj "#" |>.mp (Option.some.inj again)
    exact Prod.ext (colorSame.trans (digits.trans otherSame.symm)) same
  · intro distinct purpose color name refers
    have listed := TokenMap.get?_hex_iff.mp (isTokenClass_colorClass.mp refers)
    rw [declared]
    refine lastValue?_of_mem ?_ (List.mem_map.mpr ⟨_, listed, rfl⟩)
    rw [List.map_map]
    exact distinct

/-- The classes of an accepted manifest's tokens are in one piece exactly when no variable
has a blank, and show the colours they replaced, if the variables have names of custom
properties, exactly when no two colours share one. -/
theorem token_classes {manifest : Manifest} (accepted : manifest.IsAccepted) :
    (manifest.KeepsWhole ↔ ∀ token ∈ manifest.tokenMap.toList, IsSolid token.2) ∧
      ((∀ token ∈ manifest.tokenMap.toList, isPropertyName token.2 = true) →
        (manifest.KeepsColors ↔ (manifest.tokenMap.toList.map Prod.snd).Nodup)) :=
  ⟨keepsWhole_iff accepted, keepsColors_iff accepted⟩

/-- A short manifest with tokens. -/
def branded (tokens : List (String × String)) : Manifest := { Manifest.brief [.react] [] with tokens }

/-- One colour in two spellings, and another one. -/
theorem token_classes_brand :
    let manifest := branded [("#2563EB", "old"), ("2563eb", "color-brand"), ("ff0000", " --accent ")]
    manifest.IsAccepted ∧ manifest.KeepsWhole ∧ manifest.KeepsColors := by
  intro manifest
  have accepted : manifest.IsAccepted := by decide +kernel
  obtain ⟨whole, colors⟩ := token_classes accepted
  exact ⟨accepted, whole.mpr (by decide +kernel), (colors (by decide +kernel)).mpr (by decide +kernel)⟩

def brandBlue : Color := .rgb 0x25 0x63 0xeb

/-- A variable may be accepted that has a blank, and one that two colours share; then a class
falls apart, or shows the other colour. -/
theorem token_classes_broken :
    let spaced := branded [("2563eb", "brand blue")]
    let shared := branded [("2563eb", "brand"), ("ff0000", "brand")]
    (spaced.IsAccepted ∧ ¬spaced.KeepsWhole ∧
      colorClass "bg" brandBlue (some spaced.tokenMap) = "bg-[var(--brand blue)]") ∧
    (shared.IsAccepted ∧ ¬shared.KeepsColors ∧
      colorClass "bg" brandBlue (some shared.tokenMap) = "bg-[var(--brand)]" ∧
      lastValue? (declarations (Site.stylesheet shared.tokenMap)) "--brand" = some "#ff0000") := by
  intro spaced shared
  have spacedAccepted : spaced.IsAccepted := by decide +kernel
  have sharedAccepted : shared.IsAccepted := by decide +kernel
  refine ⟨⟨spacedAccepted, ?_, by decide +kernel⟩, sharedAccepted, ?_, by decide +kernel, by decide +kernel⟩
  · rw [keepsWhole_iff spacedAccepted]
    decide +kernel
  · rw [keepsColors_iff sharedAccepted (by decide +kernel)]
    decide +kernel

end Manifest

end Handoff
