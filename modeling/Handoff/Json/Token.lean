import Handoff.Json.Basic
import Handoff.Text.Escape

/-!
Tokens of JSON text. Main statement: reading a token uses up at least one character, so that
splitting a text into tokens ends.
-/
namespace Handoff.Json

inductive Token where
  | openArray
  | closeArray
  | openObject
  | closeObject
  | comma
  | colon
  | null
  | bool (value : Bool)
  | number (value : Numeral)
  | string (value : Option String)

/-- What a string is spelled with: plain characters and escaped 16-bit units. -/
inductive Piece where
  | char (c : Char)
  | unit (code : Nat)

/-- Joins escaped units into characters. A surrogate that is not part of a pair has no text. -/
def joinPieces (acc : List Char) : List Piece → Option (List Char)
  | [] => some acc.reverse
  | .char c :: rest => joinPieces (c :: acc) rest
  | .unit high :: rest =>
    if high < 0xD800 ∨ 0xDFFF < high then joinPieces (Char.ofNat high :: acc) rest
    else
      match rest with
      | .unit low :: rest =>
        if high < 0xDC00 ∧ 0xDC00 ≤ low ∧ low ≤ 0xDFFF then
          joinPieces (Char.ofNat (0x10000 + (high - 0xD800) * 0x400 + (low - 0xDC00)) :: acc) rest
        else none
      | _ => none

/-- The character that follows a backslash, except for escaped units. -/
def escaped? : Char → Option Char
  | '"' => some '"'
  | '\\' => some '\\'
  | '/' => some '/'
  | 'b' => some '\x08'
  | 'f' => some '\x0c'
  | 'n' => some '\n'
  | 'r' => some '\r'
  | 't' => some '\t'
  | _ => none

def readString (acc : List Piece) : List Char → Option (List Piece × List Char)
  | [] => none
  | '"' :: rest => some (acc.reverse, rest)
  | '\\' :: 'u' :: a :: b :: c :: d :: rest =>
    match Text.hexNumber? [a, b, c, d] with
    | some code => readString (.unit code :: acc) rest
    | none => none
  | '\\' :: c :: rest =>
    match escaped? c with
    | some c => readString (.char c :: acc) rest
    | none => none
  | c :: rest =>
    if c = '\\' ∨ c.toNat < 0x20 then none else readString (.char c :: acc) rest

def natOfDigits (digits : List Char) : Nat :=
  digits.foldl (fun n c => n * 10 + (c.toNat - '0'.toNat)) 0

/-- The digits that a text starts with, and the rest. -/
def readDigits (input : List Char) : List Char × List Char :=
  (input.takeWhile Char.isDigit, input.dropWhile Char.isDigit)

/-- The digits of a whole part: a zero alone, or digits that start with another one. -/
def readWhole : List Char → Option (List Char × List Char)
  | '0' :: rest => some (['0'], rest)
  | input => if (readDigits input).1.isEmpty then none else some (readDigits input)

/-- The digits after a point, none if there is no point. -/
def readFraction : List Char → Option (List Char × List Char)
  | '.' :: rest => if (readDigits rest).1.isEmpty then none else some (readDigits rest)
  | input => some ([], input)

/-- The sign of an exponent: whether it is a minus. -/
def readSign : List Char → Bool × List Char
  | '-' :: rest => (true, rest)
  | '+' :: rest => (false, rest)
  | input => (false, input)

def readExponent : List Char → Option (Option Int × List Char)
  | [] => some (none, [])
  | c :: rest =>
    if c = 'e' ∨ c = 'E' then
      let (negative, rest) := readSign rest
      let (digits, rest) := readDigits rest
      if digits.isEmpty then none
      else some (some (Binary64.signed negative (natOfDigits digits)), rest)
    else some (none, c :: rest)

def readNumber (negative : Bool) (input : List Char) : Option (Numeral × List Char) := do
  let (whole, input) ← readWhole input
  let (fraction, input) ← readFraction input
  let (exponent, input) ← readExponent input
  let value := Numeral.ofWritten negative (natOfDigits whole) (natOfDigits fraction) fraction.length
    exponent
  return (value, input)

/-- Reads the token at the start of a text that does not start with white space. -/
def readToken : List Char → Option (Token × List Char)
  | '[' :: rest => some (.openArray, rest)
  | ']' :: rest => some (.closeArray, rest)
  | '\x7b' :: rest => some (.openObject, rest)
  | '\x7d' :: rest => some (.closeObject, rest)
  | ',' :: rest => some (.comma, rest)
  | ':' :: rest => some (.colon, rest)
  | 'n' :: 'u' :: 'l' :: 'l' :: rest => some (.null, rest)
  | 't' :: 'r' :: 'u' :: 'e' :: rest => some (.bool true, rest)
  | 'f' :: 'a' :: 'l' :: 's' :: 'e' :: rest => some (.bool false, rest)
  | '"' :: rest =>
    (readString [] rest).map fun (pieces, rest) =>
      (.string ((joinPieces [] pieces).map String.ofList), rest)
  | '-' :: rest => (readNumber true rest).map fun (value, rest) => (.number value, rest)
  | input => (readNumber false input).map fun (value, rest) => (.number value, rest)

theorem length_readString {acc : List Piece} {input : List Char} {pieces rest}
    (read : readString acc input = some (pieces, rest)) : rest.length < input.length := by
  fun_induction readString acc input generalizing pieces rest with
  | case1 => simp at read
  | case2 => simp_all
  | case3 _ _ _ _ _ tail _ _ ih => have := ih read; simp only [List.length_cons]; omega
  | case4 => simp at read
  | case5 _ _ tail _ _ _ ih => have := ih read; simp only [List.length_cons]; omega
  | case6 => simp at read
  | case7 => simp at read
  | case8 _ _ tail => rename_i ih; have := ih read; simp only [List.length_cons]; omega

theorem length_readDigits (input : List Char) : (readDigits input).2.length ≤ input.length :=
  (List.dropWhile_suffix _).length_le

theorem length_readDigits_of_nonempty {input : List Char}
    (nonempty : (readDigits input).1.isEmpty = false) :
    (readDigits input).2.length < input.length := by
  have split := congrArg List.length (@List.takeWhile_append_dropWhile _ Char.isDigit input)
  rw [List.length_append] at split
  have : 0 < (input.takeWhile Char.isDigit).length := by
    cases h : input.takeWhile Char.isDigit with
    | nil => simp [readDigits, h] at nonempty
    | cons => simp
  simp only [readDigits]
  omega

theorem length_readWhole {input : List Char} {digits rest}
    (read : readWhole input = some (digits, rest)) : rest.length < input.length := by
  unfold readWhole at read
  split at read
  · simp at read; simp [← read.2]
  · split at read
    · simp at read
    · rename_i nonempty
      have := length_readDigits_of_nonempty (by simpa using nonempty)
      simp at read
      simpa [read] using this

theorem length_readFraction {input : List Char} {digits rest}
    (read : readFraction input = some (digits, rest)) : rest.length ≤ input.length := by
  unfold readFraction at read
  split at read
  · split at read
    · simp at read
    · rename_i tail _
      have := length_readDigits tail
      simp at read
      simp [read] at this
      simp; omega
  · simp at read; simp [read.2]

theorem length_readExponent {input : List Char} {exponent rest}
    (read : readExponent input = some (exponent, rest)) : rest.length ≤ input.length := by
  unfold readExponent at read
  split at read
  · simp at read; simp [read.2]
  · rename_i c tail
    split at read
    · have sign : (readSign tail).2.length ≤ tail.length := by
        unfold readSign; split <;> simp
      have digits := length_readDigits (readSign tail).2
      grind
    · simp at read; simp [← read.2]

theorem length_readNumber {negative : Bool} {input : List Char} {value rest}
    (read : readNumber negative input = some (value, rest)) : rest.length < input.length := by
  simp only [readNumber, Option.bind_eq_bind, Option.bind_eq_some_iff, Option.pure_def,
    Option.some.injEq, Prod.mk.injEq, Prod.exists] at read
  obtain ⟨_, _, whole, _, _, fraction, _, _, exponent, _, rfl⟩ := read
  have := length_readWhole whole
  have := length_readFraction fraction
  have := length_readExponent exponent
  omega

/-- A token has at least one character. -/
theorem length_readToken {input : List Char} {token rest}
    (read : readToken input = some (token, rest)) : rest.length < input.length := by
  unfold readToken at read
  split at read
  all_goals first
    | (simp at read; obtain ⟨_, rfl⟩ := read; simp; try omega)
    | skip
  · simp only [Option.map_eq_some_iff, Prod.mk.injEq, Prod.exists] at read
    obtain ⟨_, _, read, _, rfl⟩ := read
    have := length_readString read
    simp; omega
  · simp only [Option.map_eq_some_iff, Prod.mk.injEq, Prod.exists] at read
    obtain ⟨_, _, read, _, rfl⟩ := read
    have := length_readNumber read
    simp; omega
  · simp only [Option.map_eq_some_iff, Prod.mk.injEq, Prod.exists] at read
    obtain ⟨_, _, read, _, rfl⟩ := read
    exact length_readNumber read

def isSpace (c : Char) : Bool := c == ' ' || c == '\n' || c == '\t' || c == '\r'

/-- The tokens of a text, after those read already, which are given in reverse. -/
def tokensAfter (acc : List Token) : List Char → Option (List Token)
  | [] => some acc.reverse
  | c :: rest =>
    if isSpace c then tokensAfter acc rest
    else
      match h : readToken (c :: rest) with
      | some (token, rest') =>
        have := length_readToken h
        tokensAfter (token :: acc) rest'
      | none => none
termination_by input => input.length
decreasing_by
  · exact Nat.lt_succ_self _
  · assumption

def tokens (input : List Char) : Option (List Token) := tokensAfter [] input

end Handoff.Json
