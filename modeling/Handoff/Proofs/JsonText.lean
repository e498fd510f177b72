import Handoff.Json.Reader
import Handoff.Proofs.NumberText

/-! Tokens are read from text one at a time. Each piece of text that the printer writes is
read as one token: a name, a number or a string is read back whatever follows it. -/

namespace Handoff.Json

/-- How a character of a string is read back. -/
def pieceOf (c : Char) : Piece :=
  if c.toNat < 0x20 ∧ c ∉ ['\x08', '\x0c', '\n', '\r', '\t'] then .unit c.toNat else .char c

private theorem hexNumber?_hexPair : ∀ n < 0x20, Text.hexNumber? (['0', '0'] ++ Text.hexPair n) = some n := by decide

private theorem readString_plain (acc : List Piece) {c : Char} (rest : List Char) (quote : c ≠ '"') (slash : c ≠ '\\')
    (visible : ¬c.toNat < 0x20) : readString acc (c :: rest) = readString (.char c :: acc) rest := by
  have plain : ¬(c = '\\' ∨ c.toNat < 0x20) := not_or.mpr ⟨slash, visible⟩
  rw [readString, if_neg plain]
  · exact quote
  · exact fun _ _ _ _ _ same _ => slash same
  · exact fun _ _ same _ => slash same

private theorem readString_escapeChar (acc : List Piece) (c : Char) (rest : List Char) :
    readString acc (escapeChar c ++ rest) = readString (pieceOf c :: acc) rest := by
  by_cases short : c ∈ ['"', '\\', '\x08', '\x0c', '\n', '\r', '\t']
  · simp only [List.mem_cons, List.not_mem_nil, or_false] at short
    rcases short with rfl | rfl | rfl | rfl | rfl | rfl | rfl <;> rfl
  · simp only [List.mem_cons, List.not_mem_nil, or_false, not_or] at short
    by_cases control : c.toNat < 0x20
    · have digits := hexNumber?_hexPair c.toNat control
      simp only [Text.hexPair, List.cons_append, List.nil_append] at digits
      simp [escapeChar, pieceOf, short, control, Text.hexPair, readString, digits]
    · have plain := readString_plain acc rest short.1 short.2.1 control
      simp [escapeChar, pieceOf, short, control, plain]

private theorem readString_escaped (acc : List Piece) (cs rest : List Char) :
    readString acc (cs.flatMap escapeChar ++ '"' :: rest) = some (acc.reverse ++ cs.map pieceOf, rest) := by
  induction cs generalizing acc with
  | nil => simp [readString]
  | cons c cs ih => rw [List.flatMap_cons, List.append_assoc, readString_escapeChar, ih]; simp

private theorem joinPieces_map (acc cs : List Char) : joinPieces acc (cs.map pieceOf) = some (acc.reverse ++ cs) := by
  induction cs generalizing acc with
  | nil => simp [joinPieces]
  | cons c cs ih =>
    rw [List.map_cons, pieceOf]
    split
    next control =>
      rw [joinPieces.eq_def]
      dsimp only
      rw [if_pos (by omega), Char.ofNat_toNat, ih]
      simp
    next => rw [joinPieces, ih]; simp

/-- A string is read back as what it denotes, or as no text if it denotes none. -/
theorem readToken_quote (value : Option String) (rest : List Char) :
    readToken ((quote value).toList ++ rest) = some (.string value, rest) := by
  cases value with
  | none => simp [quote, readToken, readString, joinPieces, Text.hexNumber?, Text.hexValue?]
  | some s =>
    have text : (quote (some s)).toList ++ rest = '"' :: (s.toList.flatMap escapeChar ++ '"' :: rest) := by simp [quote]
    rw [text, readToken, readString_escaped]
    simp [joinPieces_map]

private theorem readNumber_head {negative : Bool} {input rest : List Char} {value : Numeral}
    (read : readNumber negative input = some (value, rest)) : ∃ c tail, input = c :: tail ∧ c.isDigit = true := by
  cases input with
  | nil => simp [readNumber, readWhole, readDigits] at read
  | cons c tail =>
    refine ⟨c, tail, rfl, ?_⟩
    by_cases digit : c.isDigit = true
    · exact digit
    · have other : readWhole (c :: tail) = none := by
        unfold readWhole
        split
        next same =>
          injection same with same
          exact absurd (same ▸ rfl) digit
        next => simp [readDigits, digit]
      simp [readNumber, other] at read

theorem readToken_of_readNumber {input rest : List Char} {value : Numeral}
    (read : readNumber false input = some (value, rest)) : readToken input = some (.number value, rest) := by
  obtain ⟨c, tail, rfl, digit⟩ := readNumber_head read
  unfold readToken
  split
  all_goals first
    | (injection ‹_ = _› with same; subst same; exact absurd digit (by decide))
    | skip
  rw [read]
  rfl

theorem readToken_negative {written rest : List Char} {value : Numeral}
    (read : readNumber true written = some (value, rest)) :
    readToken ('-' :: written) = some (.number value, rest) := by
  rw [readToken, read]
  rfl

end Handoff.Json
