import Handoff.Classes.Node
import Handoff.Proofs.NameCharacters
import Handoff.Proofs.OrderedMaps

/-! The characters of classes. A class is made of fixed words, whole numbers, named colours
and hexadecimal digits, and has no blank in it; so a list of classes stays on the line that
it is written on. -/

namespace Handoff.Classes
open Text Naming

/-- A text that lists of classes keep in one piece. -/
def IsSolid (s : String) : Prop := ∀ c ∈ s.toList, isBlank c = false

instance (s : String) : Decidable (IsSolid s) := inferInstanceAs (Decidable (∀ c ∈ s.toList, _))

theorem isSolid_append_iff {first second : String} : IsSolid (first ++ second) ↔ IsSolid first ∧ IsSolid second := by
  rw [IsSolid, String.toList_append]
  exact List.forall_mem_append

theorem IsSolid.append {first second : String} (left : IsSolid first) (right : IsSolid second) : IsSolid (first ++ second) :=
  isSolid_append_iff.mpr ⟨left, right⟩

/-- The characters of ASCII that show. -/
def isPrintable (c : Char) : Bool := Nat.ble 33 c.toNat && Nat.ble c.toNat 126

theorem isBlank_of_isPrintable {c : Char} (printable : isPrintable c = true) : isBlank c = false := by
  have ascii := forall_of_codes (fun c => isPrintable c = true → isBlank c = false) 127 (by decide) c
  have small : c.toNat < 127 := by
    rw [isPrintable, Bool.and_eq_true, Nat.ble_eq, Nat.ble_eq] at printable
    omega
  exact ascii small printable

theorem isBlank_of_isDigit {c : Char} (digit : c.isDigit = true) : isBlank c = false := by
  simp only [Char.isDigit, Bool.and_eq_true, decide_eq_true_eq, ge_iff_le, UInt32.le_iff_toNat_le] at digit
  change 48 ≤ c.toNat ∧ c.toNat ≤ 57 at digit
  exact isBlank_of_isPrintable (by simp only [isPrintable, Bool.and_eq_true, Nat.ble_eq]; omega)

private theorem isBlank_of_isLower {c : Char} (lower : c.isLower = true) : isBlank c = false := by
  have bounds := isLower_iff.mp lower
  exact isBlank_of_isPrintable (by simp only [isPrintable, Bool.and_eq_true, Nat.ble_eq]; omega)

theorem isSolid_natToString (n : Nat) : IsSolid (toString n) := by
  intro c member
  rw [Nat.toString_eq_ofList_toDigits, String.toList_ofList] at member
  exact isBlank_of_isDigit (Nat.isDigit_of_mem_toDigits (by decide) (by decide) member)

theorem isSolid_toString (n : Int) : IsSolid (toString n) := by
  cases n with
  | ofNat n => exact isSolid_natToString n
  | negSucc n => exact @IsSolid.append "-" _ (by decide) (isSolid_natToString (n + 1))

/-- The digits that colours are written with. -/
def smallDigits : List Char := "0123456789abcdef".toList

theorem mem_smallDigits {color : Color} {c : Char} (member : c ∈ color.hex.toList) : c ∈ smallDigits := by
  have digit : ∀ value < 16, Nat.digitChar value ∈ smallDigits := by decide
  rw [Color.hex, String.toList_ofList] at member
  obtain ⟨channel, -, pair⟩ := List.mem_flatMap.mp member
  have bound := channel.toNat_lt
  rcases List.mem_cons.mp pair with rfl | low
  · exact digit _ (by omega)
  · rw [List.mem_singleton.mp low]
    exact digit _ (by omega)

theorem isSolid_hex (color : Color) : IsSolid color.hex :=
  fun c member => (by decide : ∀ c ∈ smallDigits, isBlank c = false) c (mem_smallDigits member)

/-- The variables of tokens, as far as colours can be looked up in them, have no blanks. -/
def KeepSolid (tokens : Option TokenMap) : Prop :=
  ∀ color name, tokens.bind (·.get? color) = some name → IsSolid name

theorem keepSolid_none : KeepSolid none := fun _ _ absurd => nomatch absurd

private theorem mem_palette_of_nearest? {color : Color} {entry : NamedColor} {distance : Binary64}
    (found : nearest? color = some (entry, distance)) : entry ∈ palette := by
  have kept : ∀ pair, nearest? color = some pair → pair.1 ∈ palette := by
    refine @List.foldlRecOn _ _ (fun best => ∀ pair, best = some pair → pair.1 ∈ palette) palette (nearer color) none
      (fun _ absurd => nomatch absurd) fun best known candidate listed pair nearest => ?_
    unfold nearer at nearest
    grind
  exact kept _ found

/-- The scales of the palette, and the steps that each of them has. -/
def hues : List String := ["slate-", "gray-", "neutral-", "red-", "blue-", "green-", "yellow-", "purple-"]

def shades : List String := ["50", "100", "200", "300", "400", "500", "600", "700", "800", "900", "950"]

private theorem names_palette : palette.map (·.name) = ["white", "black"] ++ hues.flatMap fun hue => shades.map (hue ++ ·) := by
  decide +kernel

theorem name_cases {entry : NamedColor} (listed : entry ∈ palette) :
    entry.name ∈ ["white", "black"] ∨ ∃ hue ∈ hues, ∃ shade ∈ shades, entry.name = hue ++ shade := by
  have named : entry.name ∈ palette.map (·.name) := List.mem_map_of_mem listed
  rw [names_palette, List.mem_append, List.mem_flatMap] at named
  refine named.imp_right fun ⟨hue, known, step⟩ => ?_
  obtain ⟨shade, among, same⟩ := List.mem_map.mp step
  exact ⟨hue, known, shade, among, same.symm⟩

/-- The names of the palette have small letters, digits and hyphens. -/
def isNameCharacter (c : Char) : Bool := c.isLower || c.isDigit || c == '-'

theorem isNameCharacter_of_mem_palette {entry : NamedColor} (listed : entry ∈ palette) :
    ∀ c ∈ entry.name.toList, isNameCharacter c = true := by
  have plain : ∀ name ∈ ["white", "black"], name.toList.all isNameCharacter = true := by decide
  have scales : ∀ name ∈ hues ++ shades, name.toList.all isNameCharacter = true := by decide
  rcases name_cases listed with known | ⟨hue, known, shade, among, same⟩
  · exact List.all_eq_true.mp (plain _ known)
  · rw [same, String.toList_append]
    exact List.forall_mem_append.mpr ⟨List.all_eq_true.mp (scales hue (List.mem_append_left _ known)),
      List.all_eq_true.mp (scales shade (List.mem_append_right _ among))⟩

private theorem isSolid_palette (entry : NamedColor) (listed : entry ∈ palette) : IsSolid entry.name := by
  intro c member
  have character := isNameCharacter_of_mem_palette listed c member
  simp only [isNameCharacter, Bool.or_eq_true, beq_iff_eq] at character
  rcases character with (lower | digit) | rfl
  · exact isBlank_of_isLower lower
  · exact isBlank_of_isDigit digit
  · decide

/-- A colour is called by a variable, by an entry of the palette, or by its digits. -/
theorem colorName_cases (color : Color) (tokens : Option TokenMap) :
    (∃ name, tokens.bind (·.get? color.hex) = some name ∧ colorName color tokens = "[var(" ++ name ++ ")]") ∨
      (∃ entry ∈ palette, colorName color tokens = entry.name) ∨ colorName color tokens = "[#" ++ color.hex ++ "]" := by
  rw [colorName]
  cases known : tokens.bind (·.get? color.hex) with
  | some name => exact .inl ⟨name, rfl, rfl⟩
  | none =>
    refine .inr ?_
    cases found : nearest? color with
    | none => exact .inr rfl
    | some pair =>
      obtain ⟨entry, distance⟩ := pair
      dsimp only
      split
      · exact .inl ⟨entry, mem_palette_of_nearest? found, rfl⟩
      · exact .inr rfl

theorem isSolid_colorName (color : Color) {tokens : Option TokenMap} (solid : KeepSolid tokens) :
    IsSolid (colorName color tokens) := by
  rcases colorName_cases color tokens with ⟨name, known, same⟩ | ⟨entry, listed, same⟩ | same <;> rw [same]
  · exact (IsSolid.append (by decide) (solid _ _ known)).append (by decide)
  · exact isSolid_palette entry listed
  · exact (IsSolid.append (by decide) (isSolid_hex color)).append (by decide)

namespace ClassList

private theorem toList_push (classes : ClassList) (name : String) :
    (classes.push name).toList = if name = "" ∨ name ∈ classes.toList then classes.toList else classes.toList ++ [name] := by
  unfold push
  split <;> rfl

/-- A list of classes has the names it is made of in their order, each where it comes first. -/
theorem toList_ofList (names : List String) : (ofList names).toList = (names.filter (· ≠ "")).eraseDups := by
  induction names using List.reverseRecOn with
  | nil => rfl
  | append_singleton names last ih =>
    have pushed : ofList (names ++ [last]) = (ofList names).push last := by
      rw [ofList, append, List.foldl_append]
      rfl
    rw [pushed, toList_push, ih, List.filter_append]
    simp only [List.mem_eraseDups]
    by_cases empty : last = ""
    · have dropped : [last].filter (· ≠ "") = [] := List.filter_cons_of_neg (by simpa using empty)
      rw [if_pos (.inl empty), dropped, List.append_nil]
    · have kept : [last].filter (· ≠ "") = [last] := List.filter_cons_of_pos (by simpa using empty)
      rw [kept, eraseDups_concat]
      simp only [empty, false_or]

private theorem mem_of_mem_ofList {names : List String} {name : String} (member : name ∈ (ofList names).toList) :
    name ∈ names := by
  rw [toList_ofList, List.mem_eraseDups] at member
  exact List.mem_of_mem_filter member

end ClassList

theorem newline_not_mem_text {names : List String} (solid : ∀ name ∈ names, IsSolid name) :
    '\n' ∉ (ClassList.ofList names).text.toList := by
  intro member
  refine forall_mem_intercalate (P := (· ≠ '\n')) (by decide) (fun name listed c inside => ?_) _ member rfl
  rintro rfl
  have blank := solid name (ClassList.mem_of_mem_ofList listed) '\n' inside
  exact absurd blank (by decide)

end Handoff.Classes
