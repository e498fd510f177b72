import Handoff.Json.Token

/-! Evaluating the literals of a script: text between quotes, on one line, and templates
between backquotes, which may have several lines and substitutions. The reader follows the
rules for strict scripts and knows nothing of how this library escapes. -/

namespace Handoff.Script
open Json (Piece joinPieces)

/-- Characters that end a line of a script. -/
def isLineEnd (c : Char) : Bool := c ∈ ['\n', '\r', '\u2028', '\u2029']

/-- Letters that stand for another character after a backslash. -/
def escapedLetters : List (Char × Char) :=
  [('b', '\x08'), ('f', '\x0c'), ('n', '\n'), ('r', '\r'), ('t', '\t'), ('v', '\x0b')]

/-- Half of a surrogate pair is a unit of a text, and any other code point is a character. -/
def codePiece? (code : Nat) : Option Piece :=
  if 0xD800 ≤ code ∧ code ≤ 0xDFFF then some (.unit code)
  else if code ≤ 0x10FFFF then some (.char (Char.ofNat code))
  else none

def readCode (length : Nat) (text : List Char) : Option (List Piece × List Char) := do
  if text.length < length then none
  let code ← Text.hexNumber? (text.take length)
  let piece ← codePiece? code
  return ([piece], text.drop length)

/-- A code point with any number of digits, up to the brace that closes it. -/
def readBracedCode (text : List Char) : Option (List Piece × List Char) := do
  let digits := text.takeWhile (· ≠ '\x7d')
  if digits = [] ∨ digits = text then none
  let code ← Text.hexNumber? digits
  let piece ← codePiece? code
  return ([piece], text.drop (digits.length + 1))

/-- A line feed belongs to the carriage return before it. -/
def afterReturn : List Char → List Char
  | '\n' :: rest => rest
  | rest => rest

/-- What follows a backslash. The end of a line stands for nothing there, and a digit is allowed
only as a zero that no other digit follows. -/
def readEscape : List Char → Option (List Piece × List Char)
  | [] => none
  | 'x' :: rest => readCode 2 rest
  | 'u' :: '\x7b' :: rest => readBracedCode rest
  | 'u' :: rest => readCode 4 rest
  | c :: rest =>
    if c = '\r' then some ([], afterReturn rest)
    else if isLineEnd c then some ([], rest)
    else if c.isDigit then
      if c = '0' ∧ ¬ rest.head?.any Char.isDigit then some ([.char '\x00'], rest) else none
    else some ([.char ((escapedLetters.lookup c).getD c)], rest)

theorem length_afterReturn (text : List Char) : (afterReturn text).length ≤ text.length := by
  unfold afterReturn
  split <;> simp

private theorem length_readCode {length : Nat} {text rest : List Char} {pieces : List Piece}
    (read : readCode length text = some (pieces, rest)) : rest.length ≤ text.length := by
  unfold readCode at read
  split at read
  · cases read
  · simp only [Option.pure_def, Option.bind_eq_bind, Option.bind_eq_some_iff, Option.some.injEq, Prod.mk.injEq] at read
    obtain ⟨_, _, _, _, -, rfl⟩ := read
    simp

private theorem length_readBracedCode {text rest : List Char} {pieces : List Piece}
    (read : readBracedCode text = some (pieces, rest)) : rest.length ≤ text.length := by
  unfold readBracedCode at read
  dsimp only at read
  split at read
  · cases read
  · simp only [Option.pure_def, Option.bind_eq_bind, Option.bind_eq_some_iff, Option.some.injEq, Prod.mk.injEq] at read
    obtain ⟨_, _, _, _, -, rfl⟩ := read
    simp

theorem length_readEscape {text rest : List Char} {pieces : List Piece} (read : readEscape text = some (pieces, rest)) :
    rest.length ≤ text.length := by
  unfold readEscape at read
  split at read
  · cases read
  · exact Nat.le_succ_of_le (length_readCode read)
  · exact Nat.le_succ_of_le (Nat.le_succ_of_le (length_readBracedCode read))
  · exact Nat.le_succ_of_le (length_readCode read)
  next c tail _ _ _ =>
    have returned := length_afterReturn tail
    rw [List.length_cons]
    grind

/-- How a piece of a literal ends: at its quote, or where a template has an expression. -/
inductive Ending where
  | closed
  | substitution
  deriving DecidableEq

/-- Reads a literal after its opening quote, with what has been read so far in reverse. Only a
template may go over several lines; whatever ends a line in it is a line feed. -/
def readLiteral (quote : Char) (acc : List Piece) : List Char → Option (List Piece × Ending × List Char)
  | [] => none
  | c :: rest =>
    if c = quote then some (acc.reverse, .closed, rest)
    else if c = '\\' then
      match read : readEscape rest with
      | some (pieces, rest') =>
        have := length_readEscape read
        readLiteral quote (pieces.reverse ++ acc) rest'
      | none => none
    else if quote = '\x60' then
      if c = '$' ∧ rest.head? = some '\x7b' then some (acc.reverse, .substitution, rest.tail)
      else if c = '\r' then
        have := length_afterReturn rest
        readLiteral quote (.char '\n' :: acc) (afterReturn rest)
      else readLiteral quote (.char c :: acc) rest
    else if c = '\n' ∨ c = '\r' then none
    else readLiteral quote (.char c :: acc) rest
termination_by text => text.length
decreasing_by all_goals simp only [List.length_cons]; omega

/-- The text that a literal denotes, how it ends, and what follows it. A literal with half of a
surrogate pair denotes no text. -/
def literal? (quote : Char) (text : List Char) : Option (String × Ending × List Char) := do
  let (pieces, ending, rest) ← readLiteral quote [] text
  let chars ← joinPieces [] pieces
  return (String.ofList chars, ending, rest)

variable {quote c : Char} {acc pieces : List Piece} {text rest : List Char}

theorem readLiteral_quote (quote : Char) (acc : List Piece) (rest : List Char) :
    readLiteral quote acc (quote :: rest) = some (acc.reverse, .closed, rest) := by
  rw [readLiteral, if_pos rfl]

theorem readLiteral_escape (other : quote ≠ '\\') (read : readEscape text = some (pieces, rest)) :
    readLiteral quote acc ('\\' :: text) = readLiteral quote (pieces.reverse ++ acc) rest := by
  rw [readLiteral, if_neg other.symm, if_pos rfl]
  split
  next found =>
    cases read.symm.trans found
    rfl
  next found => cases read.symm.trans found

/-- Between quotes a character stands for itself unless it ends the line. -/
theorem readLiteral_line (template : quote ≠ '\x60') (plain : c ∉ [quote, '\\', '\n', '\r']) :
    readLiteral quote acc (c :: rest) = readLiteral quote (.char c :: acc) rest := by
  simp only [List.mem_cons, List.not_mem_nil, or_false, not_or] at plain
  obtain ⟨unquoted, slash, feed, carriage⟩ := plain
  rw [readLiteral, if_neg unquoted, if_neg slash, if_neg template, if_neg (not_or.mpr ⟨feed, carriage⟩)]

/-- In a template a character stands for itself unless it opens an expression. -/
theorem readLiteral_template (plain : c ∉ ['\x60', '\\', '\r']) (opens : c = '$' → rest.head? ≠ some '\x7b') :
    readLiteral '\x60' acc (c :: rest) = readLiteral '\x60' (.char c :: acc) rest := by
  simp only [List.mem_cons, List.not_mem_nil, or_false, not_or] at plain
  obtain ⟨unquoted, slash, carriage⟩ := plain
  rw [readLiteral, if_neg unquoted, if_neg slash, if_pos rfl, if_neg fun both => opens both.1 both.2, if_neg carriage]

theorem readLiteral_return (acc : List Piece) (rest : List Char) :
    readLiteral '\x60' acc ('\r' :: rest) = readLiteral '\x60' (.char '\n' :: acc) (afterReturn rest) := by
  rw [readLiteral, if_neg (by decide), if_neg (by decide), if_pos rfl, if_neg fun both => absurd both.1 (by decide),
    if_pos rfl]

theorem afterReturn_of_head? (other : rest.head? ≠ some '\n') : afterReturn rest = rest := by
  unfold afterReturn
  split
  · exact absurd rfl other
  · rfl

private theorem joinPieces_chars (acc chars : List Char) : joinPieces acc (chars.map .char) = some (acc.reverse ++ chars) := by
  induction chars generalizing acc with
  | nil => simp [joinPieces]
  | cons c chars ih =>
    rw [List.map_cons, joinPieces, ih]
    simp

/-- A literal whose pieces are characters denotes the text of these characters. -/
theorem literal?_of_readLiteral {chars : List Char} {ending : Ending}
    (read : readLiteral quote [] text = some (chars.map .char, ending, rest)) :
    literal? quote text = some (String.ofList chars, ending, rest) := by
  rw [literal?, read]
  simp [joinPieces_chars]

end Handoff.Script
