import Handoff.Proofs.JsonText
import Handoff.Proofs.JsonValues

/-! What is written as JSON is read back. The printer's white space separates tokens, the
reader passes through a written value with its stack unchanged, and only numbers without a
JSON form come back as something else. -/

namespace Handoff

/-- The value that a number's text denotes. A number that is not finite has no text. -/
def Numeral.written : Numeral → Json
  | .integer value => .number (.ofWritten (decide (value < 0)) value.natAbs 0 0 none)
  | .real value => if value.isFinite then .real value else .null

namespace Json

mutual

/-- The value that the text of a value denotes. -/
def written : Json → Json
  | .number value => value.written
  | .array items => .array (allWritten items)
  | .object members => .object (membersWritten members)
  | json => json

def allWritten : List Json → List Json
  | [] => []
  | item :: items => item.written :: allWritten items

def membersWritten : List (Option String × Json) → List (Option String × Json)
  | [] => []
  | (name, value) :: members => (name, value.written) :: membersWritten members

end

theorem allWritten_eq_map (items : List Json) : allWritten items = items.map written := by
  induction items with
  | nil => rfl
  | cons item items ih => rw [allWritten, ih, List.map_cons]

theorem membersWritten_eq_map (members : List (Option String × Json)) :
    membersWritten members = members.map fun member => (member.1, member.2.written) := by
  induction members with
  | nil => rfl
  | cons member members ih => rw [membersWritten, ih, List.map_cons]

/-- What the reader makes of the rest of a text. -/
def resume (expected : Expectation) (stack : List Frame) (input : List Char) : Option Json :=
  (tokens input).bind (build expected stack)

theorem tokensAfter_nil (acc : List Token) : tokensAfter acc [] = some acc.reverse := by rw [tokensAfter]

theorem tokensAfter_space {c : Char} (space : isSpace c = true) (acc : List Token) (rest : List Char) :
    tokensAfter acc (c :: rest) = tokensAfter acc rest := by
  rw [tokensAfter, if_pos space]

theorem tokensAfter_visible {c : Char} (visible : ¬isSpace c = true) (acc : List Token) (rest : List Char) :
    tokensAfter acc (c :: rest) = (readToken (c :: rest)).bind fun read => tokensAfter (read.1 :: acc) read.2 := by
  rw [tokensAfter, if_neg visible]
  split
  next found => simp only [found, Option.bind_some]
  next missing => simp only [missing, Option.bind_none]

private theorem tokensAfter_eq_map (acc : List Token) (input : List Char) :
    tokensAfter acc input = (tokens input).map (acc.reverse ++ ·) := by
  -- On the length of the input: a token leaves a shorter rest, with one more token before it.
  induction size : input.length using Nat.strongRecOn generalizing acc input with
  | ind n ih =>
    unfold tokens
    cases input with
    | nil => simp [tokensAfter_nil]
    | cons c rest =>
      rw [List.length_cons] at size
      by_cases space : isSpace c = true
      · rw [tokensAfter_space space, tokensAfter_space space]
        exact ih rest.length (by omega) acc rest rfl
      · rw [tokensAfter_visible space, tokensAfter_visible space]
        cases read : readToken (c :: rest) with
        | none => rfl
        | some taken =>
          have shorter := length_readToken read
          rw [List.length_cons] at shorter
          rw [Option.bind_some, Option.bind_some, ih _ (by omega) (taken.1 :: acc) taken.2 rfl,
            ih _ (by omega) [taken.1] taken.2 rfl,
            Option.map_map]
          simp [Function.comp_def]

private theorem readToken_space {c : Char} (space : isSpace c = true) (rest : List Char) : readToken (c :: rest) = none := by
  simp only [isSpace, Bool.or_eq_true, beq_iff_eq] at space
  rcases space with ((rfl | rfl) | rfl) | rfl <;> rfl

private theorem tokens_blank {blank : List Char} (spaces : ∀ c ∈ blank, isSpace c = true) (rest : List Char) :
    tokens (blank ++ rest) = tokens rest := by
  induction blank with
  | nil => rfl
  | cons c blank ih =>
    rw [List.forall_mem_cons] at spaces
    rw [List.cons_append, tokens, tokensAfter_space spaces.1]
    exact ih spaces.2

private theorem tokens_token {input rest : List Char} {token : Token} (read : readToken input = some (token, rest)) :
    tokens input = (tokens rest).map (token :: ·) := by
  cases input with
  | nil => exact absurd (length_readToken read) (Nat.not_lt_zero _)
  | cons c input =>
    have visible : ¬isSpace c = true := by
      intro space
      rw [readToken_space space] at read
      cases read
    rw [tokens, tokensAfter_visible visible, read, Option.bind_some, tokensAfter_eq_map]
    rfl

theorem resume_blank {blank : List Char} (spaces : ∀ c ∈ blank, isSpace c = true) (expected : Expectation)
    (stack : List Frame) (rest : List Char) : resume expected stack (blank ++ rest) = resume expected stack rest := by
  rw [resume, tokens_blank spaces, resume]

theorem resume_token {expected next : Expectation} {stack inner : List Frame} {input rest : List Char} {token : Token}
    (read : readToken input = some (token, rest)) (stepped : step expected stack token = some (next, inner)) :
    resume expected stack input = resume next inner rest := by
  have taken : ∀ later, build expected stack (token :: later) = build next inner later := by
    intro later
    rw [build, stepped]
  rw [resume, resume, tokens_token read, Option.bind_map]
  exact congrArg (Option.bind (tokens rest)) (funext taken)

/-- White space that a reader passes over. -/
structure Spacing.IsBlank (spacing : Spacing) : Prop where
  newLine : ∀ level, ∀ c ∈ (spacing.newLine level).toList, isSpace c = true
  colon : ∃ gap, spacing.colon.toList = ':' :: gap ∧ ∀ c ∈ gap, isSpace c = true

private theorem isBlank_compact : Spacing.compact.IsBlank := ⟨fun _ _ member => absurd member List.not_mem_nil, [], rfl, by simp⟩

private theorem isBlank_pretty : Spacing.pretty.IsBlank where
  newLine level c member := by
    simp only [Spacing.pretty, String.toList_append, String.toList_ofList, List.mem_append] at member
    rcases member with line | indent
    · obtain rfl : c = '\n' := by simpa using line
      rfl
    · rw [List.eq_of_mem_replicate indent]
      rfl
  colon := ⟨[' '], rfl, List.forall_mem_singleton.mpr rfl⟩

private theorem EndsNumber.blank {blank rest : List Char} (spaces : ∀ c ∈ blank, isSpace c = true) (ends : EndsNumber rest) :
    EndsNumber (blank ++ rest) := by
  cases blank with
  | nil => exact ends
  | cons c blank =>
    have space := spaces c List.mem_cons_self
    simp only [isSpace, Bool.or_eq_true, beq_iff_eq] at space
    intro other member
    obtain rfl : c = other := Option.some.inj member
    rcases space with ((rfl | rfl) | rfl) | rfl <;> decide

/-- An expectation that takes a value on top of a stack. -/
def Opens (expected : Expectation) (stack inner : List Frame) : Prop :=
  ∀ token, token ≠ .closeArray → step expected stack token = startValue inner token

theorem opens_value (stack : List Frame) : Opens .value stack stack := fun _ _ => rfl

private theorem opens_firstItem (stack : List Frame) : Opens .firstItem stack (.array [] :: stack) := by
  intro token other
  cases token with
  | closeArray => exact absurd rfl other
  | _ => rfl

variable {expected : Expectation} {stack inner : List Frame} {rest : List Char}

private theorem Opens.resume {next : Expectation} {above : List Frame} {input : List Char} {token : Token}
    (opens : Opens expected stack inner) (read : readToken input = some (token, rest)) (other : token ≠ .closeArray)
    (started : startValue inner token = some (next, above)) : resume expected stack input = Json.resume next above rest :=
  resume_token read ((opens token other).trans started)

/-- The token of a number's text starts the value that the text denotes. -/
theorem readToken_write (value : Numeral) (ends : EndsNumber rest) (stack : List Frame) :
    ∃ token, readToken (value.write.toList ++ rest) = some (token, rest) ∧ token ≠ .closeArray ∧
      startValue stack token = some (.after value.written, stack) := by
  cases value with
  | integer value =>
    refine ⟨.number (.ofWritten (decide (value < 0)) value.natAbs 0 0 none), ?_, by simp, rfl⟩
    have spelled := spells_repr value.natAbs (decide (value < 0)) rest ends
    rw [Numeral.write, Int.toString_eq_repr, Int.repr_eq_if]
    by_cases positive : 0 ≤ value
    · have sign : decide (value < 0) = false := by simpa using positive
      have size : value.toNat = value.natAbs := by omega
      rw [sign] at spelled ⊢
      rw [if_pos positive, size]
      exact readToken_of_readNumber spelled
    · have sign : decide (value < 0) = true := by simpa using positive
      have size : (-value).toNat = value.natAbs := by omega
      rw [sign] at spelled ⊢
      rw [if_neg positive, size, String.toList_append]
      exact readToken_negative spelled
  | real value =>
    by_cases finite : value.isFinite = true
    · refine ⟨.number (.real value), ?_, by simp, by rw [Numeral.written, if_pos finite]; rfl⟩
      rw [Numeral.write, if_pos finite]
      cases value with
      | nan => cases finite
      | infinite negative => cases finite
      | finite negative magnitude =>
        have spelled := spells_magnitude magnitude negative rest ends
        rw [Binary64.TextLayout.write, String.toList_append, List.append_assoc]
        cases negative with
        | false => exact readToken_of_readNumber spelled
        | true => exact readToken_negative spelled
    · refine ⟨.null, ?_, by simp, by rw [Numeral.written, if_neg finite]; rfl⟩
      rw [Numeral.write, if_neg finite]
      rfl

section Text

variable (spacing : Spacing) (level : Nat)

private theorem toList_write_array (item : Json) (items : List Json) :
    (write spacing level (.array (item :: items))).toList ++ rest =
    '[' :: ((spacing.newLine (level + 1)).toList ++ ((write spacing (level + 1) item).toList ++
      ((writeItems spacing (level + 1) items).toList ++ ((spacing.newLine level).toList ++ ']' :: rest)))) := by
  simp [write]

private theorem toList_write_object (name : Option String) (value : Json) (members : List (Option String × Json)) :
    (write spacing level (.object ((name, value) :: members))).toList ++ rest =
      '\x7b' :: ((spacing.newLine (level + 1)).toList ++ ((quote name).toList ++ (spacing.colon.toList ++
        ((write spacing (level + 1) value).toList ++ ((writeMembers spacing (level + 1) members).toList ++
          ((spacing.newLine level).toList ++ '\x7d' :: rest)))))) := by
  simp [write]

theorem toList_writeItems_cons (item : Json) (items : List Json) :
    (writeItems spacing level (item :: items)).toList ++ rest =
    ',' :: ((spacing.newLine level).toList ++
      ((write spacing level item).toList ++ ((writeItems spacing level items).toList ++ rest))) := by
  simp [writeItems]

theorem toList_writeMembers_cons (name : Option String) (value : Json) (members : List (Option String × Json)) :
    (writeMembers spacing level ((name, value) :: members)).toList ++ rest =
      ',' :: ((spacing.newLine level).toList ++ ((quote name).toList ++ (spacing.colon.toList ++
        ((write spacing level value).toList ++ ((writeMembers spacing level members).toList ++ rest))))) := by
  simp [writeMembers]

theorem endsNumber_items (items : List Json) (ends : EndsNumber rest) :
    EndsNumber ((writeItems spacing level items).toList ++ rest) := by
  cases items with
  | nil => exact ends
  | cons item items =>
    rw [toList_writeItems_cons]
    intro c member
    obtain rfl : ',' = c := Option.some.inj member
    decide

theorem endsNumber_members (members : List (Option String × Json)) (ends : EndsNumber rest) :
    EndsNumber ((writeMembers spacing level members).toList ++ rest) := by
  cases members with
  | nil => exact ends
  | cons member members =>
    rw [toList_writeMembers_cons]
    intro c found
    obtain rfl : ',' = c := Option.some.inj found
    decide

end Text

variable {spacing : Spacing} (blank : spacing.IsBlank)
include blank

theorem endsNumber_close (level : Nat) (rest : List Char) {close : Char} (bracket : close = ']' ∨ close = '\x7d') :
    EndsNumber ((spacing.newLine level).toList ++ close :: rest) := by
  refine EndsNumber.blank (blank.newLine level) ?_
  intro c member
  obtain rfl : close = c := Option.some.inj member
  rcases bracket with rfl | rfl <;> decide

/-- A value at a level is read in every place for values. -/
def Passes (spacing : Spacing) (level : Nat) (json : Json) : Prop :=
  ∀ {expected stack inner rest}, Opens expected stack inner → EndsNumber rest →
    resume expected stack ((write spacing level json).toList ++ rest) = resume (.after json.written) inner rest

private theorem resume_items {level outer : Nat} (items : List Json) (pass : ∀ item ∈ items, Passes spacing level item)
    (first : Json) (seen : List Json) (stack : List Frame) (rest : List Char) :
    resume (.after first) (.array seen :: stack)
        ((writeItems spacing level items).toList ++ ((spacing.newLine outer).toList ++ ']' :: rest)) =
      resume (.after (.array (seen.reverse ++ first :: items.map written))) stack rest := by
  induction items generalizing first seen with
  | nil =>
    have closed : resume (.after first) (.array seen :: stack) (']' :: rest) =
        resume (.after (.array (first :: seen).reverse)) stack rest := resume_token rfl rfl
    rw [List.reverse_cons] at closed
    exact (resume_blank (blank.newLine outer) _ _ _).trans closed
  | cons item items ih =>
    rw [List.forall_mem_cons] at pass
    have after := endsNumber_items spacing level items (endsNumber_close blank outer rest (.inl rfl))
    have comma : ∀ input, resume (.after first) (.array seen :: stack) (',' :: input) =
        resume .value (.array (first :: seen) :: stack) input := fun input => resume_token rfl rfl
    rw [toList_writeItems_cons, comma, resume_blank (blank.newLine level), pass.1 (opens_value _) after, ih pass.2,
      List.reverse_cons, List.append_assoc]
    rfl

theorem resume_name (stack : List Frame) (members : List (Option String × Json)) (name : Option String)
    (rest : List Char) :
    resume (.colon members name) stack (spacing.colon.toList ++ rest) =
      resume .value (.object members name :: stack) rest := by
  obtain ⟨gap, text, spaces⟩ := blank.colon
  have colon : resume (.colon members name) stack (':' :: (gap ++ rest)) =
      resume .value (.object members name :: stack) (gap ++ rest) := resume_token rfl rfl
  rw [text, List.cons_append, colon, resume_blank spaces]

private theorem resume_members {level outer : Nat} (members : List (Option String × Json))
    (pass : ∀ member ∈ members, Passes spacing level member.2) (name : Option String) (first : Json)
    (seen : List (Option String × Json)) (stack : List Frame) (rest : List Char) :
    resume (.after first) (.object seen name :: stack)
        ((writeMembers spacing level members).toList ++ ((spacing.newLine outer).toList ++ '\x7d' :: rest)) =
      resume (.after (.object (seen.reverse ++ (name, first) :: members.map fun member => (member.1, member.2.written)))) stack
        rest := by
  induction members generalizing name first seen with
  | nil =>
    have closed : resume (.after first) (.object seen name :: stack) ('\x7d' :: rest) =
        resume (.after (.object ((name, first) :: seen).reverse)) stack rest := resume_token rfl rfl
    rw [List.reverse_cons] at closed
    exact (resume_blank (blank.newLine outer) _ _ _).trans closed
  | cons member members ih =>
    obtain ⟨next, value⟩ := member
    rw [List.forall_mem_cons] at pass
    have after := endsNumber_members spacing level members (endsNumber_close blank outer rest (.inr rfl))
    have comma : ∀ input, resume (.after first) (.object seen name :: stack) (',' :: input) =
        resume (.name ((name, first) :: seen)) stack input := fun input => resume_token rfl rfl
    have named : ∀ input, resume (.name ((name, first) :: seen)) stack ((quote next).toList ++ input) =
        resume (.colon ((name, first) :: seen) next) stack input :=
          fun input => resume_token (readToken_quote next input) rfl
    rw [toList_writeMembers_cons, comma, resume_blank (blank.newLine level), named, resume_name blank,
      pass.1 (opens_value _) after, ih pass.2, List.reverse_cons, List.append_assoc]
    rfl

/-- The reader passes through a written value, whatever waits for it and follows it. -/
theorem passes_write (json : Json) (level : Nat) : Passes spacing level json := by
  induction json using partInduction generalizing level with
  | null =>
    intro _ _ _ rest opens _
    have read : readToken ((write spacing level .null).toList ++ rest) = some (.null, rest) := by rw [write]; rfl
    exact opens.resume read (by simp) rfl
  | bool value =>
    intro _ _ _ rest opens _
    have read : readToken ((write spacing level (.bool value)).toList ++ rest) = some (.bool value, rest) := by
      rw [write]
      cases value <;> rfl
    exact opens.resume read (by simp) rfl
  | number value =>
    intro _ _ inner _ opens ends
    obtain ⟨token, read, other, started⟩ := readToken_write value ends inner
    exact opens.resume read other started
  | string value =>
    intro _ _ _ rest opens _
    exact opens.resume (readToken_quote value rest) (by simp) rfl
  | array items ih =>
    intro expected stack inner rest opens ends
    have opened : ∀ input, resume expected stack ('[' :: input) = resume .firstItem inner input :=
      fun input => opens.resume rfl (by simp) rfl
    rw [written, allWritten_eq_map]
    cases items with
    | nil =>
      have closed : resume .firstItem inner (']' :: rest) = resume (.after (.array [])) inner rest := resume_token rfl rfl
      have text : (write spacing level (.array [])).toList ++ rest = '[' :: ']' :: rest := by simp [write]
      rw [text, opened, closed, List.map_nil]
    | cons item items =>
      rw [List.forall_mem_cons] at ih
      have after := endsNumber_items spacing (level + 1) items (endsNumber_close blank level rest (.inl rfl))
      rw [toList_write_array, opened, resume_blank (blank.newLine (level + 1)),
        ih.1 (level + 1) (opens_firstItem inner) after]
      exact resume_items blank items (fun other member => ih.2 other member (level + 1)) item.written [] inner rest
  | object members ih =>
    intro expected stack inner rest opens ends
    have opened : ∀ input, resume expected stack ('\x7b' :: input) = resume .firstName inner input :=
      fun input => opens.resume rfl (by simp) rfl
    rw [written, membersWritten_eq_map]
    cases members with
    | nil =>
      have closed : resume .firstName inner ('\x7d' :: rest) = resume (.after (.object [])) inner rest :=
        resume_token rfl rfl
      have text : (write spacing level (.object [])).toList ++ rest = '\x7b' :: '\x7d' :: rest := by simp [write]
      rw [text, opened, closed, List.map_nil]
    | cons member members =>
      obtain ⟨name, value⟩ := member
      rw [List.forall_mem_cons] at ih
      have after := endsNumber_members spacing (level + 1) members (endsNumber_close blank level rest (.inr rfl))
      have named : ∀ input, resume .firstName inner ((quote name).toList ++ input) =
        resume (.colon [] name) inner input :=
        fun input => resume_token (readToken_quote name input) rfl
      rw [toList_write_object, opened, resume_blank (blank.newLine (level + 1)), named, resume_name blank,
        ih.1 (level + 1) (opens_value _) after]
      exact resume_members blank members (fun other member => ih.2 other member (level + 1))
        name value.written [] inner rest

/-- Whatever is written is one value, the one that the text denotes. -/
theorem parse_write (json : Json) (level : Nat) : parse (write spacing level json) = some json.written := by
  have ends : EndsNumber [] := fun _ member => by cases member
  have read := passes_write blank json level (opens_value []) ends
  have finished : resume (.after json.written) [] [] = some json.written := by
    rw [resume, tokens, tokensAfter_nil]
    rfl
  rw [List.append_nil, finished] at read
  exact read

omit blank in
theorem parse_compact (json : Json) : parse json.compact = some json.written := parse_write isBlank_compact json 0

omit blank in
theorem parse_pretty (json : Json) : parse json.pretty = some json.written := parse_write isBlank_pretty json 0

end Json
end Handoff
