import Handoff.Toml.Moment
import Handoff.Toml.Quoted

/-!
Tokens of TOML text. Lines end with a line feed, which a carriage return may precede. Main
statement: reading a token uses up at least one character, so that splitting a text into tokens
ends.
-/
namespace Handoff.Toml

inductive Token where
  | equals
  | dot
  | comma
  | openBracket
  | closeBracket
  | openBrace
  | closeBrace
  | blank
  | newline
  /-- A run of characters without quotes. -/
  | word (chars : List Char)
  | quoted (text : String) (multiline : Bool)

/-- Text whose lines all end with a line feed. A carriage return stands only before a line feed. -/
def plainLines : List Char → Option (List Char)
  | [] => some []
  | '\r' :: '\n' :: rest => (plainLines rest).map ('\n' :: ·)
  | c :: rest => if c = '\r' then none else (plainLines rest).map (c :: ·)

def symbols : List (Char × Token) :=
  [('=', .equals), ('.', .dot), (',', .comma), ('[', .openBracket), (']', .closeBracket),
   ('\x7b', .openBrace), ('\x7d', .closeBrace), ('\n', .newline), (' ', .blank), ('\t', .blank)]

def endsWord (c : Char) : Bool := c == '#' || symbols.any (·.1 == c)

def readText (mark : Char) (multiline : Bool) (input : List Char) : Option (Token × List Char) :=
  (readQuoted ⟨mark, multiline⟩ [] input).map fun (content, rest) =>
    (.quoted (String.ofList content) multiline, rest)

/-- A line break right after the opening of a text over several lines is not part of it. -/
def dropFirstBreak : List Char → List Char
  | '\n' :: rest => rest
  | input => input

/-- Reads the word that starts with a character. A time that follows a date and a space belongs to
the same word. -/
def readWord (c : Char) (rest : List Char) : List Char × List Char :=
  let word := c :: rest.takeWhile (!endsWord ·)
  let after := rest.dropWhile (!endsWord ·)
  match afterDate? word, after with
  | some [], ' ' :: digit :: more =>
    if digit.isDigit then
      (word ++ ' ' :: digit :: more.takeWhile (!endsWord ·), more.dropWhile (!endsWord ·))
    else (word, after)
  | _, _ => (word, after)

/-- Reads the token that starts with a character. A comment is blank, and so is all of it. -/
def readToken (c : Char) (rest : List Char) : Option (Token × List Char) :=
  match symbols.find? (·.1 = c) with
  | some (_, token) => some (token, rest)
  | none =>
    if c = '#' then
      if (rest.takeWhile (· != '\n')).all isPlain then some (.blank, rest.dropWhile (· != '\n'))
      else none
    else if c = '"' ∨ c = '\'' then
      match rest with
      | d :: e :: rest' =>
        if d = c ∧ e = c then readText c true (dropFirstBreak rest') else readText c false rest
      | _ => readText c false rest
    else some (.word (readWord c rest).1, (readWord c rest).2)

theorem length_readText {mark : Char} {multiline : Bool} {input : List Char} {token rest}
    (read : readText mark multiline input = some (token, rest)) : rest.length < input.length := by
  simp only [readText, Option.map_eq_some_iff, Prod.mk.injEq, Prod.exists] at read
  obtain ⟨_, _, read, _, rfl⟩ := read
  exact length_readQuoted read

theorem length_dropFirstBreak (input : List Char) :
    (dropFirstBreak input).length ≤ input.length := by
  unfold dropFirstBreak
  split <;> simp

theorem length_dropWhile_le (p : Char → Bool) (chars : List Char) :
    (chars.dropWhile p).length ≤ chars.length := (List.dropWhile_suffix p).length_le

theorem length_readWord (c : Char) (rest : List Char) :
    (readWord c rest).2.length ≤ rest.length := by
  have shorter := length_dropWhile_le (!endsWord ·) rest
  unfold readWord
  dsimp only
  split
  · next digit more _ after =>
    have more_shorter := length_dropWhile_le (!endsWord ·) more
    rw [after] at shorter
    split
    · simp only [List.length_cons] at *
      omega
    · rw [after]
      exact shorter
  · exact shorter

/-- A token has at least one character. -/
theorem length_readToken {c : Char} {rest : List Char} {token rest'}
    (read : readToken c rest = some (token, rest')) : rest'.length ≤ rest.length := by
  have shorter (p : Char → Bool) := length_dropWhile_le p rest
  have wordShorter := length_readWord c rest
  unfold readToken at read
  split at read
  · grind
  · split at read
    · grind
    · split at read
      · split at read
        · rename_i tail
          have := length_dropFirstBreak tail
          split at read
          · have := length_readText read
            simp only [List.length_cons]
            omega
          · have := length_readText read
            simp only [List.length_cons] at *
            omega
        · have := length_readText read
          omega
      · grind

/-- The tokens of a text, after those read already, which are given in reverse. -/
def tokensAfter (acc : List Token) : List Char → Option (List Token)
  | [] => some acc.reverse
  | c :: rest =>
    match h : readToken c rest with
    | some (token, rest') =>
      have := length_readToken h
      tokensAfter (token :: acc) rest'
    | none => none
termination_by input => input.length

/-- The tokens of a text, without the mark of byte order that may start it. -/
def tokens (input : List Char) : Option (List Token) :=
  match input with
  | '\ufeff' :: rest => (plainLines rest).bind (tokensAfter [])
  | _ => (plainLines input).bind (tokensAfter [])

end Handoff.Toml
