import Handoff.Naming

/-! The characters of names. Whatever a label holds, an ASCII character of the names made
from it is a letter or a digit, or a hyphen where words are joined: the case mappings
lead from letters to letters, and everything else ends a word. Names can therefore be
written into paths and sources without being escaped. -/

namespace Handoff.Naming
open Text

/-- What holds of the characters of a text is decided by going through the text, not through
all characters that there are. -/
instance decidableForallMem (chars : List Char) (P : Char → Prop) [DecidablePred P] : Decidable (∀ c ∈ chars, P c) :=
  List.decidableBAll P chars

/-- What holds of the characters of every part and of what stands between the parts. -/
theorem forall_mem_intercalate {P : Char → Prop} {separator : String} {parts : List String}
    (between : ∀ c ∈ separator.toList, P c) (inside : ∀ part ∈ parts, ∀ c ∈ part.toList, P c) :
    ∀ c ∈ (String.intercalate separator parts).toList, P c := by
  rw [String.toList_intercalate]
  induction parts with
  | nil => exact fun c member => absurd member List.not_mem_nil
  | cons part parts ih =>
    have first := inside part List.mem_cons_self
    have more := ih fun other member => inside other (List.mem_cons_of_mem _ member)
    cases parts with
    | nil => simpa using first
    | cons next parts =>
      rw [List.map_cons, List.map_cons, List.intercalate_cons_cons]
      exact List.forall_mem_append.mpr ⟨List.forall_mem_append.mpr ⟨first, between⟩, more⟩

theorem not_mem_append {c : Char} {first rest : String} (left : c ∉ first.toList) (right : c ∉ rest.toList) :
    c ∉ (first ++ rest).toList := by
  rw [String.toList_append, List.mem_append, not_or]
  exact ⟨left, right⟩

theorem not_mem_intercalate {c : Char} {separator : String} {parts : List String} (between : c ∉ separator.toList)
    (inside : ∀ part ∈ parts, c ∉ part.toList) : c ∉ (String.intercalate separator parts).toList := by
  intro member
  refine forall_mem_intercalate (P := (· ≠ c)) ?_ ?_ c member rfl
  · rintro _ within rfl
    exact between within
  · rintro part listed _ within rfl
    exact inside part listed within

/-- Letters and digits of ASCII, and whatever is not ASCII. -/
def isNamePart (c : Char) : Bool := decide (128 ≤ c.toNat) || c.isAlphanum

/-- A name that needs no escaping where it is written. -/
structure IsPlain (name : String) : Prop where
  nonempty : name ≠ ""
  parts : ∀ c ∈ name.toList, isNamePart c = true

instance (name : String) : Decidable (IsPlain name) :=
  decidable_of_iff (name ≠ "" ∧ ∀ c ∈ name.toList, isNamePart c = true)
    ⟨fun ⟨nonempty, parts⟩ => ⟨nonempty, parts⟩, fun ⟨nonempty, parts⟩ => ⟨nonempty, parts⟩⟩

theorem ne_of_isNamePart {c d : Char} (part : isNamePart c = true) (other : isNamePart d = false) : c ≠ d := by
  rintro rfl
  simp [part] at other

theorem IsPlain.not_mem {name : String} (plain : IsPlain name) {c : Char} (other : isNamePart c = false) : c ∉ name.toList :=
  fun member => ne_of_isNamePart (plain.parts c member) other rfl

/-- What holds of all codes below a bound holds of the characters that have them. -/
theorem forall_of_codes (P : Char → Prop) (bound : Nat) (each : ∀ code < bound, P (Char.ofNat code))
    (c : Char) (small : c.toNat < bound) : P c := by
  have known := each c.toNat small
  rwa [Char.ofNat_toNat] at known

theorem isUpper_iff {c : Char} : c.isUpper = true ↔ 65 ≤ c.toNat ∧ c.toNat ≤ 90 :=
  decide_eq_true_iff

theorem isLower_iff {c : Char} : c.isLower = true ↔ 97 ≤ c.toNat ∧ c.toNat ≤ 122 :=
  Bool.and_eq_true_iff.trans (and_congr decide_eq_true_iff decide_eq_true_iff)

theorem isNamePart_of_le {c : Char} (wide : 128 ≤ c.toNat) : isNamePart c = true := by
  simp [isNamePart, wide]

theorem isNamePart_of_isAlphanumeric {c : Char} (letter : isAlphanumeric c = true) : isNamePart c = true := by
  have ascii := forall_of_codes (fun c => isAlphanumeric c = true → c.isAlphanum = true) 128 (by decide) c
  by_cases wide : 128 ≤ c.toNat
  · exact isNamePart_of_le wide
  · simp [isNamePart, ascii (Nat.lt_of_not_le wide) letter]

theorem toNat_ofNat_of_isValidChar {code : Nat} (valid : code.isValidChar) : (Char.ofNat code).toNat = code := by
  rw [Char.ofNat, dif_pos valid]
  rfl

/-! A case mapping lists what a letter becomes, or moves the letter along its span. -/

/-- A shift that leads beyond ASCII, or to the capitals or the small letters of ASCII. -/
def keepsNames (shift : Property.Shift) : Bool :=
  let first := (shift.span.first : Int) + shift.offset
  let last := (shift.span.last : Int) + shift.offset
  decide (128 ≤ first ∧ last < 0xd800 ∨ 0xe000 ≤ first ∧ last < 0x110000) ||
    decide (65 ≤ first ∧ last ≤ 90 ∨ 97 ≤ first ∧ last ≤ 122)

theorem isValidChar_shifted {shift : Property.Shift} (keeps : keepsNames shift = true) {code : Nat}
    (inside : shift.span.contains code = true) : ((code : Int) + shift.offset).toNat.isValidChar := by
  simp only [Span.contains, Bool.and_eq_true, decide_eq_true_eq] at inside
  simp only [keepsNames, Bool.or_eq_true, decide_eq_true_eq] at keeps
  unfold Nat.isValidChar
  omega

private theorem isNamePart_shifted {shift : Property.Shift} (keeps : keepsNames shift = true) {code : Nat}
    (inside : shift.span.contains code = true) : isNamePart (Char.ofNat ((code : Int) + shift.offset).toNat) = true := by
  have letters : ∀ code < 123, (65 ≤ code ∧ code ≤ 90 ∨ 97 ≤ code ∧ code ≤ 122) → (Char.ofNat code).isAlphanum = true := by
    decide
  have same := toNat_ofNat_of_isValidChar (isValidChar_shifted keeps inside)
  simp only [Span.contains, Bool.and_eq_true, decide_eq_true_eq] at inside
  obtain ⟨⟨low, high⟩, -⟩ := inside
  simp only [keepsNames, Bool.or_eq_true, decide_eq_true_eq] at keeps
  generalize moved : ((code : Int) + shift.offset).toNat = next at same ⊢
  rcases keeps with wide | narrow
  · exact isNamePart_of_le (by omega)
  · simp [isNamePart, letters next (by omega) (by omega)]

theorem mapped_cases {sequences : List (Nat × List Nat)} {shifts : List Property.Shift} {c : Char} {form : List Char}
    (mapped : form =
      match sequences.find? (·.1 == c.toNat) with
      | some (_, codes) => codes.map Char.ofNat
      | none =>
        match shifts.find? (·.span.contains c.toNat) with
        | some shift => [Char.ofNat ((c.toNat : Int) + shift.offset).toNat]
        | none => [c]) :
    form = [c] ∨ (∃ codes, (c.toNat, codes) ∈ sequences ∧ form = codes.map Char.ofNat) ∨
      ∃ shift ∈ shifts, shift.span.contains c.toNat = true ∧ form = [Char.ofNat ((c.toNat : Int) + shift.offset).toNat] := by
  subst mapped
  split
  next key codes found =>
    have same : key = c.toNat := by simpa using List.find?_some found
    exact .inr (.inl ⟨codes, same ▸ List.mem_of_find?_eq_some found, rfl⟩)
  next =>
    split
    next shift found =>
      exact .inr (.inr ⟨shift, List.mem_of_find?_eq_some found, by simpa using List.find?_some found, rfl⟩)
    next => exact .inl rfl

theorem capital_cases (c : Char) :
    capital c = [c] ∨ (∃ codes, (c.toNat, codes) ∈ Property.capitalSequences ∧ capital c = codes.map Char.ofNat) ∨
      ∃ shift ∈ Property.capitalShifts, shift.span.contains c.toNat = true ∧
        capital c = [Char.ofNat ((c.toNat : Int) + shift.offset).toNat] := mapped_cases rfl

private theorem small_cases (c : Char) :
    small c = [c] ∨ (∃ codes, (c.toNat, codes) ∈ Property.smallSequences ∧ small c = codes.map Char.ofNat) ∨
      ∃ shift ∈ Property.smallShifts, shift.span.contains c.toNat = true ∧
        small c = [Char.ofNat ((c.toNat : Int) + shift.offset).toNat] := mapped_cases rfl

theorem isNamePart_mapped {sequences : List (Nat × List Nat)} {shifts : List Property.Shift}
    (listed : ∀ entry ∈ sequences, ∀ code ∈ entry.2, isNamePart (Char.ofNat code) = true)
    (moved : ∀ shift ∈ shifts, keepsNames shift = true) {c : Char} (part : isNamePart c = true) {form : List Char}
    (mapped : form = [c] ∨ (∃ codes, (c.toNat, codes) ∈ sequences ∧ form = codes.map Char.ofNat) ∨
      ∃ shift ∈ shifts, shift.span.contains c.toNat = true ∧ form = [Char.ofNat ((c.toNat : Int) + shift.offset).toNat]) :
    ∀ d ∈ form, isNamePart d = true := by
  intro d member
  rcases mapped with rfl | ⟨codes, found, rfl⟩ | ⟨shift, found, inside, rfl⟩
  · exact List.mem_singleton.mp member ▸ part
  · obtain ⟨code, within, rfl⟩ := List.mem_map.mp member
    exact listed _ found code within
  · rw [List.mem_singleton.mp member]
    exact isNamePart_shifted (moved _ found) inside

theorem keepsNames_capitalShifts : ∀ shift ∈ Property.capitalShifts, keepsNames shift = true := by decide +kernel

private theorem isNamePart_capital {c : Char} (part : isNamePart c = true) : ∀ d ∈ capital c, isNamePart d = true :=
  isNamePart_mapped (by decide) keepsNames_capitalShifts part (capital_cases c)

private theorem isNamePart_small {c : Char} (part : isNamePart c = true) : ∀ d ∈ small c, isNamePart d = true :=
  isNamePart_mapped (by decide) (by decide +kernel) part (small_cases c)

private theorem isNamePart_lowercaseAfter {chars : List Char} (parts : ∀ c ∈ chars, isNamePart c = true) (before : List Char) :
    ∀ d ∈ lowercaseAfter before chars, isNamePart d = true := by
  induction chars generalizing before with
  | nil => exact fun d member => absurd member List.not_mem_nil
  | cons c rest ih =>
    intro d member
    rw [lowercaseAfter, List.mem_append] at member
    rcases member with form | later
    · split at form
      · -- the one letter whose small form depends on what is around it
        have sigma : d = 'ς' ∨ d = 'σ' := by split at form <;> simp_all
        rcases sigma with rfl | rfl <;> decide
      · exact isNamePart_small (parts c List.mem_cons_self) d form
    · exact ih (fun e inside => parts e (List.mem_cons_of_mem _ inside)) (c :: before) d later

/-! Words and the names made of them -/

private theorem isAlphanumeric_of_mem_wordsAfter {text word : List Char} {boundary : Bool}
    (letters : ∀ c ∈ word, isAlphanumeric c = true) {found : List Char} (member : found ∈ wordsAfter word boundary text) :
    ∀ c ∈ found, isAlphanumeric c = true := by
  have ofClosed : ∀ pending : List Char, (∀ c ∈ pending, isAlphanumeric c = true) → found ∈ closed pending →
      ∀ c ∈ found, isAlphanumeric c = true := by
    intro pending letters inside c within
    unfold closed at inside
    split at inside
    · cases inside
    · rw [List.mem_singleton.mp inside, List.mem_reverse] at within
      exact letters c within
  induction text generalizing word boundary with
  | nil => exact ofClosed word letters member
  | cons c rest ih =>
    rw [wordsAfter] at member
    split at member
    next letter =>
      have more : ∀ d ∈ c :: word, isAlphanumeric d = true := List.forall_mem_cons.mpr ⟨letter, letters⟩
      split at member
      · rcases List.mem_append.mp member with before | later
        · exact ofClosed word letters before
        · exact ih (by simpa using letter) later
      · exact ih more member
    next =>
      rcases List.mem_append.mp member with before | later
      · exact ofClosed word letters before
      · exact ih (by simp) later

theorem isNamePart_of_mem_words {label word : List Char} (member : word ∈ words label) :
    ∀ c ∈ word, isNamePart c = true := by
  intro c inside
  exact isNamePart_of_isAlphanumeric (isAlphanumeric_of_mem_wordsAfter (by simp) member c inside)

private theorem isNamePart_capitalize {word : List Char} (parts : ∀ c ∈ word, isNamePart c = true) :
    ∀ c ∈ capitalize word, isNamePart c = true := by
  cases word with
  | nil => exact parts
  | cons first rest =>
    intro c member
    rcases List.mem_append.mp member with leading | later
    · exact isNamePart_capital (parts first List.mem_cons_self) c leading
    · exact parts c (List.mem_cons_of_mem _ later)

theorem isPlain_append {name rest : String} (plain : IsPlain name) (parts : ∀ c ∈ rest.toList, isNamePart c = true) :
    IsPlain (name ++ rest) where
  nonempty := by
    intro empty
    exact plain.nonempty (String.append_eq_empty_iff.mp empty).1
  parts := by
    rw [String.toList_append]
    exact List.forall_mem_append.mpr ⟨plain.parts, parts⟩

private theorem isPlain_fallback : IsPlain fallback := by decide

theorem isPlain_pascalCase (label : String) : IsPlain (pascalCase label) := by
  have parts : ∀ c ∈ (words label.toList).flatMap capitalize, isNamePart c = true := by
    intro c member
    obtain ⟨word, inside, within⟩ := List.mem_flatMap.mp member
    exact isNamePart_capitalize (isNamePart_of_mem_words inside) c within
  unfold pascalCase
  dsimp only
  split
  next => exact isPlain_fallback
  next first rest joined =>
    split
    · exact isPlain_append isPlain_fallback (by rw [String.toList_ofList]; exact parts)
    · refine ⟨?_, by rw [String.toList_ofList]; exact parts⟩
      rw [joined]
      simp

/-- Kebab case adds no character but hyphens. -/
theorem isNamePart_kebabCase (name : String) :
    ∀ c ∈ (kebabCase name).toList, isNamePart c = true ∨ c = '-' := by
  intro c member
  refine forall_mem_intercalate (P := fun c => isNamePart c = true ∨ c = '-') (fun d hyphen => ?_)
    (fun item inside d within => ?_) c member
  · exact .inr (by simpa using hyphen)
  · obtain ⟨word, listed, rfl⟩ := List.mem_map.mp inside
    rw [lowercase, String.toList_ofList, String.toList_ofList] at within
    exact .inl (isNamePart_lowercaseAfter (isNamePart_of_mem_words listed) [] d within)

theorem isPlain_of_isPascalCase {name : String} (pascal : isPascalCase name = true) : IsPlain name := by
  unfold isPascalCase at pascal
  split at pascal
  next => cases pascal
  next first rest spelling =>
    rw [Bool.and_eq_true, List.all_eq_true] at pascal
    have letter : first.isAlpha = true := Bool.or_eq_true_iff.mpr (.inl pascal.1)
    refine ⟨?_, ?_⟩
    · rintro rfl
      simp at spelling
    · rw [spelling]
      refine List.forall_mem_cons.mpr ⟨?_, fun c member => ?_⟩
      · simp [isNamePart, Char.isAlphanum, letter]
      · simp [isNamePart, pascal.2 c member]

end Handoff.Naming
