import Mathlib.Data.List.Find
import Handoff.Interpretation.Role
import Handoff.Proofs.RepeatedNaming

/-! What the name of a shape says about its role. Words are looked for in the small letters of the
name. The only letter whose small form depends on what stands around it is the sigma, which is in
none of the words; so words are found in the small forms of the letters by themselves, and a longer
name has all that is found in a part of it. What a shape is goes before its name. -/

namespace Handoff

namespace Text
open Naming (small_ascii isUpper_iff forall_of_codes)

/-- The small form of a letter by itself. -/
def smallAlone (c : Char) : List Char := if c = 'Σ' then ['σ'] else small c

/-- A sigma at the end of a word as it is within one. -/
def withinWord (c : Char) : Char := if c = 'ς' then 'σ' else c

private theorem map_withinWord_lowercaseAfter (before chars : List Char) :
    (lowercaseAfter before chars).map withinWord = (chars.flatMap smallAlone).map withinWord := by
  induction chars generalizing before with
  | nil => rfl
  | cons c rest ih =>
    rw [lowercaseAfter, List.flatMap_cons, List.map_append, List.map_append, ih]
    congr 1
    unfold smallAlone
    split
    · split <;> decide
    · rfl

private theorem withinWord_ascii {c : Char} (ascii : c.toNat < 128) : withinWord c = c := by
  apply if_neg
  intro final
  subst final
  exact absurd ascii (by decide)

private theorem eq_of_withinWord_ascii {c : Char} (ascii : (withinWord c).toNat < 128) : withinWord c = c := by
  unfold withinWord at ascii ⊢
  split at ascii
  next => exact absurd ascii (by decide)
  next other => exact if_neg other

section

variable {word : List Char} (ascii : ∀ c ∈ word, c.toNat < 128)
include ascii

private theorem isInfix_map_withinWord_iff {text : List Char} : word <:+: text.map withinWord ↔ word <:+: text := by
  constructor
  · intro inside
    obtain ⟨part, within, rfl⟩ := List.infix_map_iff.mp inside
    have same : part.map withinWord = part.map id :=
      List.map_congr_left fun c member => eq_of_withinWord_ascii (ascii _ (List.mem_map_of_mem member))
    rwa [same, List.map_id]
  · intro inside
    have same : word.map withinWord = word.map id := List.map_congr_left fun c member => withinWord_ascii (ascii c member)
    rw [List.map_id] at same
    exact same ▸ inside.map withinWord

/-- What has no sigma is found in a text's small form as if each letter stood alone. -/
theorem isInfix_lowercaseAfter_iff {chars : List Char} : word <:+: lowercaseAfter [] chars ↔ word <:+: chars.flatMap smallAlone := by
  rw [← isInfix_map_withinWord_iff ascii, map_withinWord_lowercaseAfter, isInfix_map_withinWord_iff ascii]

end

private theorem smallAlone_ascii {c : Char} (ascii : c.toNat < 128) : smallAlone c = [c.toLower] := by
  have plain : c ≠ 'Σ' := by
    intro sigma
    subst sigma
    exact absurd ascii (by decide)
  rw [smallAlone, if_neg plain, small_ascii ascii]

private theorem smallAlone_toLower (c : Char) : smallAlone c.toLower = smallAlone c := by
  by_cases upper : c.isUpper = true
  · have ascii : c.toNat < 128 := Nat.lt_of_le_of_lt (isUpper_iff.mp upper).2 (by decide)
    have lowered : c.toLower.toNat < 128 ∧ c.toLower.toLower = c.toLower :=
      forall_of_codes (fun c => c.toLower.toNat < 128 ∧ c.toLower.toLower = c.toLower) 128 (by decide) c ascii
    rw [smallAlone_ascii ascii, smallAlone_ascii lowered.1, lowered.2]
  · have same : c.toLower = c := dif_neg fun bounds => upper (decide_eq_true bounds)
    rw [same]

end Text

namespace Interpretation
open Text (smallAlone)

/-- The words that a condition looks for. -/
def Condition.words : Condition → List String
  | .ellipseNamed word | .vectorNamed word => [word]
  | .dividingVector => ["divider", "separator"]
  | .keywords words => words
  | .kind _ | .image | .vector | .container => []

private theorem ascii_words : ∀ rule ∈ rules, ∀ word ∈ rule.condition.words, ∀ c ∈ word.toList, c.toNat < 128 := by
  decide

/-- A shape that is the same but for its name. -/
def renamed (shape : Document.Shape) (name : String) : Document.Shape := { shape with name }

theorem mentions_iff {label : List Char} {word : String} : mentions label word = true ↔ word.toList <:+: label :=
  Text.occursIn_iff_isInfix

/-- A condition that holds keeps to hold under a label with the same words and more. -/
theorem Condition.holds_mono {shape : Document.Shape} {label other : List Char} {condition : Condition}
    (kept : ∀ word ∈ condition.words, mentions label word = true → mentions other word = true)
    (holds : condition.holds shape label = true) (name : String) : condition.holds (renamed shape name) other = true := by
  cases condition with
  | kind | image | vector | container => exact holds
  | ellipseNamed word | vectorNamed word =>
    obtain ⟨kind, inside⟩ := Bool.and_eq_true_iff.mp holds
    exact Bool.and_eq_true_iff.mpr ⟨kind, kept word List.mem_cons_self inside⟩
  | dividingVector =>
    obtain ⟨kind, reason⟩ := Bool.and_eq_true_iff.mp holds
    apply Bool.and_eq_true_iff.mpr
    simp only [Bool.or_eq_true] at reason ⊢
    exact ⟨kind, reason.imp_left (Or.imp (kept _ (by simp [words])) (kept _ (by simp [words])))⟩
  | keywords words =>
    obtain ⟨word, listed, inside⟩ := List.any_eq_true.mp holds
    exact List.any_eq_true.mpr ⟨word, listed, kept word listed inside⟩

section

variable {shape : Document.Shape} {name : String}

/-- What a shape's name shows to the rules, the other name shows as well. -/
theorem applies_mono (shown : shape.name.toList.flatMap smallAlone <:+: name.toList.flatMap smallAlone) :
    ∀ rule ∈ rules, rule.applies shape = true → rule.applies (renamed shape name) = true := by
  intro rule listed applies
  apply Condition.holds_mono _ applies name
  intro word asked mentioned
  have ascii := ascii_words rule listed word asked
  have inside := (Text.isInfix_lowercaseAfter_iff ascii).mp (mentions_iff.mp mentioned)
  exact mentions_iff.mpr ((Text.isInfix_lowercaseAfter_iff ascii).mpr (inside.trans shown))

private theorem decidingRule_mono (shown : shape.name.toList.flatMap smallAlone <:+: name.toList.flatMap smallAlone) {place : Nat}
    (decides : decidingRule shape = some place) : ∃ earlier ≤ place, decidingRule (renamed shape name) = some earlier := by
  obtain ⟨inside, rfl⟩ := List.findIdx?_eq_some_iff_findIdx_eq.mp decides
  have before := List.findIdx_le_findIdx (applies_mono shown)
  exact ⟨_, before, List.findIdx?_eq_some_iff_findIdx_eq.mpr ⟨Nat.lt_of_le_of_lt before inside, rfl⟩⟩

private theorem roleOf_renamed (same : name.toList.flatMap smallAlone = shape.name.toList.flatMap smallAlone) :
    roleOf (renamed shape name) = roleOf shape := by
  have applies : ∀ rule ∈ rules, rule.applies (renamed shape name) = rule.applies shape := by
    intro rule listed
    apply Bool.eq_iff_iff.mpr
    constructor
    · exact @applies_mono (renamed shape name) shape.name (same ▸ List.infix_rfl) rule listed
    · exact applies_mono (same ▸ List.infix_rfl) rule listed
  unfold roleOf
  rw [List.find?_congr applies]

end

/-! Which rule decides -/

/-- The groups of words that a label is searched for, in order, and the roles they stand for. -/
def keywordGroups : List (List String × Role) :=
  rules.filterMap fun rule =>
    match rule.condition with
    | .keywords words => some (words, rule.role)
    | _ => none

/-- The rules about what a shape is, the groups of words, and what is left for a container. -/
theorem rules_eq :
    rules = rules.take 6 ++ ((keywordGroups.map fun (words, role) => ⟨.keywords words, role⟩) ++ [⟨.container, .container⟩]) :=
  rfl

/-- A shape whose kind and paint leave its role to its name. -/
structure IsOpen (shape : Document.Shape) : Prop where
  not_text : shape.kind ≠ .text
  not_vector : shape.kind.isVector = false
  not_picture : ¬(shape.kind = .rectangle ∧ ∃ paint ∈ shape.fills, paint.visible = true ∧ paint.kind = .image)

/-- The role of the first group with a word in the label, or what the kind leaves without one. -/
structure FollowsLabel (shape : Document.Shape) (role : Role) : Prop where
  grouped : ∀ before words named behind, keywordGroups = before ++ (words, named) :: behind →
    (∀ group ∈ before, ∀ word ∈ group.1, ¬word.toList <:+: labelOf shape) →
    (∃ word ∈ words, word.toList <:+: labelOf shape) → role = named
  ungrouped : (∀ group ∈ keywordGroups, ∀ word ∈ group.1, ¬word.toList <:+: labelOf shape) →
    role = if shape.kind.isContainer then .container else .unknown

variable {shape : Document.Shape}

theorem hasImageFill_iff : shape.hasImageFill = true ↔ ∃ paint ∈ shape.fills, paint.visible = true ∧ paint.kind = .image := by
  simp [Document.Shape.hasImageFill]

/-- A rule among the first that applies leaves the others unread. -/
theorem roleOf_of_mem_take {count : Nat} {rule : Rule} (listed : rule ∈ rules.take count) (applies : rule.applies shape = true) :
    ∃ decisive ∈ rules.take count, decisive.applies shape = true ∧ roleOf shape = decisive.role := by
  have some : ∃ decisive, (rules.take count).find? (·.applies shape) = some decisive :=
    Option.isSome_iff_exists.mp (List.find?_isSome.mpr ⟨rule, listed, applies⟩)
  obtain ⟨decisive, found⟩ := some
  refine ⟨decisive, List.mem_of_find?_eq_some found, by simpa using List.find?_some found, ?_⟩
  rw [roleOf, ← List.take_append_drop count rules, List.find?_append, found]
  rfl

/-- The roles that shapes have by what they are. -/
inductive HasKindRole (shape : Document.Shape) : Role → Prop
  | text (kind : shape.kind = .text) : HasKindRole shape .text
  | picture (kind : shape.kind = .rectangle) (filled : shape.hasImageFill = true) : HasKindRole shape .image
  | icon (vector : shape.kind.isVector = true) : HasKindRole shape .icon
  | divider (vector : shape.kind.isVector = true) : HasKindRole shape .divider
  | avatar (kind : shape.kind = .ellipse) : HasKindRole shape .avatar

theorem hasKindRole_of_mem_take {rule : Rule} (listed : rule ∈ rules.take 6) (applies : rule.applies shape = true) :
    HasKindRole shape (roleOf shape) := by
  obtain ⟨decisive, first, holds, same⟩ := roleOf_of_mem_take listed applies
  have six : decisive ∈ [⟨.kind .text, .text⟩, ⟨.image, .image⟩, ⟨.ellipseNamed "avatar", .avatar⟩, ⟨.vectorNamed "icon", .icon⟩,
    ⟨.dividingVector, .divider⟩, ⟨.vector, .icon⟩] := first
  rw [same]
  simp only [List.mem_cons, List.not_mem_nil, or_false] at six
  rcases six with rfl | rfl | rfl | rfl | rfl | rfl <;>
    simp only [Rule.applies, Condition.holds, Bool.and_eq_true, beq_iff_eq] at holds
  · exact .text holds
  · exact .picture holds.1 holds.2
  · exact .avatar holds.1
  · exact .icon holds.1
  · exact .divider holds.1
  · exact .icon holds

private theorem roleOf_text (kind : shape.kind = .text) : roleOf shape = .text := by
  have listed : (⟨.kind .text, .text⟩ : Rule) ∈ rules.take 6 := by simp [rules]
  have known := hasKindRole_of_mem_take listed (beq_iff_eq.mpr kind)
  generalize roleOf shape = role at known ⊢
  cases known with
  | text => rfl
  | picture other | avatar other => exact absurd (kind.symm.trans other) (by decide)
  | icon vector | divider vector => exact absurd (kind ▸ vector) (by decide)

private theorem roleOf_picture (kind : shape.kind = .rectangle) (filled : shape.hasImageFill = true) : roleOf shape = .image := by
  have listed : (⟨.image, .image⟩ : Rule) ∈ rules.take 6 := by simp [rules]
  have known := hasKindRole_of_mem_take listed (Bool.and_eq_true_iff.mpr ⟨beq_iff_eq.mpr kind, filled⟩)
  generalize roleOf shape = role at known ⊢
  cases known with
  | picture => rfl
  | text other | avatar other => exact absurd (kind.symm.trans other) (by decide)
  | icon vector | divider vector => exact absurd (kind ▸ vector) (by decide)

private theorem roleOf_vector (vector : shape.kind.isVector = true) :
    roleOf shape = .icon ∨ roleOf shape = .divider ∨ shape.kind = .ellipse ∧ roleOf shape = .avatar := by
  have listed : (⟨.vector, .icon⟩ : Rule) ∈ rules.take 6 := by simp [rules]
  have known := hasKindRole_of_mem_take listed vector
  generalize roleOf shape = role at known ⊢
  cases known with
  | text kind | picture kind => exact absurd (kind ▸ vector) (by decide)
  | icon => exact .inl rfl
  | divider => exact .inr (.inl rfl)
  | avatar kind => exact .inr (.inr ⟨kind, rfl⟩)

private theorem IsOpen.not_hasKindRole (isOpen : IsOpen shape) {role : Role} : ¬HasKindRole shape role := by
  have undrawn := Bool.eq_false_iff.mp isOpen.not_vector
  intro known
  cases known with
  | text kind => exact isOpen.not_text kind
  | picture kind filled => exact isOpen.not_picture ⟨kind, hasImageFill_iff.mp filled⟩
  | icon vector | divider vector => exact undrawn vector
  | avatar kind => exact undrawn (kind ▸ rfl)

private theorem roleOf_open (isOpen : IsOpen shape) :
    roleOf shape = match keywordGroups.find? fun group => group.1.any (mentions (labelOf shape)) with
      | some group => group.2
      | none => if shape.kind.isContainer then .container else .unknown := by
  have unread : (rules.take 6).find? (·.applies shape) = none := by
    apply List.find?_eq_none.mpr
    intro rule listed applies
    exact isOpen.not_hasKindRole (hasKindRole_of_mem_take listed applies)
  have found : rules.find? (·.applies shape) =
      ((keywordGroups.find? fun group => group.1.any (mentions (labelOf shape))).map fun (words, role) => ⟨.keywords words, role⟩).or
        (if shape.kind.isContainer then some ⟨.container, .container⟩ else none) := by
    rw [rules_eq, List.find?_append, unread, Option.none_or, List.find?_append, List.find?_map, List.find?_singleton]
    rfl
  rw [roleOf, found]
  cases keywordGroups.find? fun group => group.1.any (mentions (labelOf shape)) with
  | some group => rfl
  | none => cases shape.kind.isContainer <;> rfl

private theorem followsLabel_roleOf (isOpen : IsOpen shape) : FollowsLabel shape (roleOf shape) := by
  have mentioned : ∀ words : List String, words.any (mentions (labelOf shape)) = true ↔ ∃ word ∈ words, word.toList <:+: labelOf shape := by
    intro words
    simp only [List.any_eq_true, mentions_iff]
  have silent : ∀ group : List String × Role, (∀ word ∈ group.1, ¬word.toList <:+: labelOf shape) →
      ¬group.1.any (mentions (labelOf shape)) = true := by
    intro group missing found
    obtain ⟨word, listed, inside⟩ := (mentioned group.1).mp found
    exact missing word listed inside
  rw [roleOf_open isOpen]
  constructor
  · intro before words named behind whole earlier found
    have first : keywordGroups.find? (fun group => group.1.any (mentions (labelOf shape))) = some (words, named) := by
      refine List.find?_eq_some_iff_append.mpr ⟨(mentioned words).mpr found, before, behind, whole, fun group member => ?_⟩
      rw [Bool.not_eq_true', ← Bool.not_eq_true]
      exact silent group (earlier group member)
    rw [first]
  · intro missing
    have none : keywordGroups.find? (fun group => group.1.any (mentions (labelOf shape))) = none :=
      List.find?_eq_none.mpr fun group member => silent group (missing group member)
    rw [none]

/-- The rule for tables never decides: a label with that word has one of an earlier rule in it. -/
theorem roleOf_ne_table : roleOf shape ≠ .table := by
  by_cases tab : "tab".toList <:+: labelOf shape
  · have listed : (⟨.keywords ["tab"], .tabs⟩ : Rule) ∈ rules.take 18 := by simp [rules]
    have applies : (⟨.keywords ["tab"], .tabs⟩ : Rule).applies shape = true := by
      simpa [Rule.applies, Condition.holds] using mentions_iff.mpr tab
    obtain ⟨decisive, first, -, same⟩ := roleOf_of_mem_take listed applies
    have others : ∀ rule ∈ rules.take 18, rule.role ≠ .table := by decide
    rw [same]
    exact others decisive first
  · unfold roleOf
    split
    next rule found =>
      intro table
      have only : rules.filter (·.role = .table) = [⟨.keywords ["table"], .table⟩] := rfl
      have member : rule ∈ rules.filter (·.role = .table) :=
        List.mem_filter.mpr ⟨List.mem_of_find?_eq_some found, decide_eq_true table⟩
      rw [only] at member
      cases List.mem_singleton.mp member
      have inside : "table".toList <:+: labelOf shape := by
        simpa [Rule.applies, Condition.holds, mentions_iff] using List.find?_some found
      exact tab (List.IsInfix.trans ⟨[], "le".toList, rfl⟩ inside)
    next => decide

/-- How the role of a shape depends on its name and on what it is. -/
structure IsClassified (shape : Document.Shape) : Prop where
  /-- More text around a name leaves the rule that decides where it is, or moves it up. -/
  grows : ∀ (front back : String) (place : Nat), decidingRule shape = some place →
    ∃ earlier ≤ place, decidingRule (renamed shape (front ++ shape.name ++ back)) = some earlier
  /-- Names that differ only in the case of ASCII letters have the same role. -/
  caseless : ∀ name : String, name.toList.map Char.toLower = shape.name.toList.map Char.toLower →
    roleOf (renamed shape name) = roleOf shape
  text : shape.kind = .text → roleOf shape = .text
  vector : shape.kind.isVector = true →
    roleOf shape = .icon ∨ roleOf shape = .divider ∨ shape.kind = .ellipse ∧ roleOf shape = .avatar
  picture : shape.kind = .rectangle → (∃ paint ∈ shape.fills, paint.visible = true ∧ paint.kind = .image) → roleOf shape = .image
  labelled : IsOpen shape → FollowsLabel shape (roleOf shape)
  no_table : roleOf shape ≠ .table

end Interpretation

end Handoff
