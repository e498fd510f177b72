import Handoff.Text.Parts

/-!
Labels outside ASCII written in ASCII. The code points that are left out are listed in rising order
as differences, in digits whose thresholds adapt to the differences so far. Main statement: reading
a difference uses up digits, so that reading a label ends.
-/
namespace Handoff.Url

def punycodeDigit (value : Nat) : Char :=
  if value < 26 then Char.ofNat ('a'.toNat + value) else Char.ofNat ('0'.toNat + (value - 26))

def punycodeValue? (c : Char) : Option Nat :=
  if c.isLower then some (c.toNat - 'a'.toNat)
  else if c.isDigit then some (26 + (c.toNat - '0'.toNat))
  else none

def threshold (position bias : Nat) : Nat :=
  if position ≤ bias + 1 then 1 else if bias + 26 ≤ position then 26 else position - bias

theorem one_le_threshold (position bias : Nat) : 1 ≤ threshold position bias := by
  unfold threshold
  split
  · omega
  · split <;> omega

/-- The digits of a difference, from a position on. -/
def punycodeDigits (bias position value : Nat) : List Char :=
  let t := threshold position bias
  if value < t then [punycodeDigit value]
  else
    punycodeDigit (t + (value - t) % (36 - t))
      :: punycodeDigits bias (position + 36) ((value - t) / (36 - t))
termination_by value
decreasing_by
  have positive := one_le_threshold position bias
  have below : (value - threshold position bias) / (36 - threshold position bias)
      ≤ value - threshold position bias := Nat.div_le_self _ _
  omega

/-- Divides a difference until it is small, and counts the divisions. -/
def shrink (delta count : Nat) : Nat × Nat :=
  if 455 < delta then shrink (delta / 35) (count + 1) else (delta, count)
termination_by delta
decreasing_by exact Nat.div_lt_self (by omega) (by omega)

/-- The bias after a difference, given how many code points are written and whether this was the
first difference. -/
def adapt (delta written : Nat) (first : Bool) : Nat :=
  let delta := if first then delta / 700 else delta / 2
  let (delta, count) := shrink (delta + delta / written) 0
  36 * count + 36 * delta / (delta + 38)

/-! Writing -/

/-- A label in the middle of being written. -/
structure PunycodeState where
  output : List Char
  delta : Nat
  bias : Nat
  written : Nat

/-- Takes a character of the label while the occurrences of a code point are written. -/
def PunycodeState.take (basic code : Nat) (state : PunycodeState) (c : Char) : PunycodeState :=
  if c.toNat < code then { state with delta := state.delta + 1 }
  else if c.toNat = code then
    { output := state.output ++ punycodeDigits state.bias 36 state.delta
      delta := 0
      bias := adapt state.delta (state.written + 1) (state.written == basic)
      written := state.written + 1 }
  else state

/-- Writes all occurrences of a code point; the next one to write is given by the last. -/
def PunycodeState.write (label : List Char) (basic : Nat) :
    Nat → List Nat → PunycodeState → PunycodeState
  | _, [], state => state
  | next, code :: codes, state =>
    let state := { state with delta := state.delta + (code - next) * (state.written + 1) }
    let state := label.foldl (PunycodeState.take basic code) state
    PunycodeState.write label basic (code + 1) codes { state with delta := state.delta + 1 }

def punycode (label : List Char) : List Char :=
  let ascii := label.filter fun c => decide (c.toNat < 128)
  let codes := ((label.filter fun c => decide (128 ≤ c.toNat)).map Char.toNat).mergeSort.eraseReps
  let start : PunycodeState := ⟨if ascii.isEmpty then [] else ascii ++ ['-'], 0, 72, ascii.length⟩
  (PunycodeState.write label ascii.length 128 codes start).output

/-! Reading -/

/-- What the weight of a digit must stay below. -/
def weightLimit : Nat := 4294967296

/-- The digits of a difference, from a position and its weight on, added to a number; and what
follows them. -/
def readDifference? (bias : Nat) :
    Nat → Nat → Nat → List Char → Option (Nat × List Char)
  | _, _, _, [] => none
  | position, weight, sum, c :: rest => do
    let value ← punycodeValue? c
    let t := threshold position bias
    if value < t then some (sum + value * weight, rest)
    else if weight * (36 - t) < weightLimit then
      readDifference? bias (position + 36) (weight * (36 - t)) (sum + value * weight) rest
    else none

theorem length_readDifference? {bias position weight sum total : Nat} {chars rest : List Char}
    (read : readDifference? bias position weight sum chars = some (total, rest)) :
    rest.length < chars.length := by
  induction chars generalizing position weight sum with
  | nil => simp [readDifference?] at read
  | cons c tail ih =>
    simp only [readDifference?, Option.bind_eq_bind, Option.bind_eq_some_iff] at read
    obtain ⟨value, _, read⟩ := read
    split at read
    · simp only [Option.some.injEq, Prod.mk.injEq] at read
      simp [read.2]
    · split at read
      · have := ih read
        simp only [List.length_cons]
        omega
      · simp at read

/-- Puts the code points that digits list into a label, each at the place after the one before. -/
def insertCodes (bias code place : Nat) (label digits : List Char) : Option (List Char) :=
  match digits with
  | [] => some label
  | c :: rest =>
    match _read : readDifference? bias 36 1 place (c :: rest) with
    | none => none
    | some (sum, rest') =>
      let places := label.length + 1
      let next := code + sum / places
      if next.isValidChar then
        insertCodes (adapt (sum - place) places (place == 0)) next (sum % places + 1)
          (label.insertIdx (sum % places) (Char.ofNat next)) rest'
      else none
termination_by digits.length
decreasing_by exact length_readDifference? _read

/-- The label that a text in ASCII stands for. The last hyphen ends its characters in ASCII. -/
def readPunycode? (chars : List Char) : Option (List Char) :=
  match chars.reverse.dropWhile (· != '-') with
  | _ :: last :: before =>
    insertCodes 72 128 0 (last :: before).reverse (chars.reverse.takeWhile (· != '-')).reverse
  | _ => insertCodes 72 128 0 [] chars

end Handoff.Url
