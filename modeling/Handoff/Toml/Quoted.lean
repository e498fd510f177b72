import Handoff.Text.Escape

/-!
Quoted text, on one line or over several. Double quotes allow escapes. Main statement: reading a
quoted text uses up at least its closing quote.
-/
namespace Handoff.Toml

/-- How a text is quoted. -/
structure Quoting where
  mark : Char
  multiline : Bool

/-- Double quotes allow escapes. -/
def Quoting.escapes (quoting : Quoting) : Bool := quoting.mark == '"'

def isSpace (c : Char) : Bool := c == ' ' || c == '\t'

/-- Characters that a document may have on a line: everything but control characters, tabs apart. -/
def isPlain (c : Char) : Bool := c == '\t' || (decide (' ' ≤ c) && c != '\x7f')

/-- What a single character after a backslash stands for. -/
def simpleEscapes : List (Char × Char) :=
  [('b', '\x08'), ('t', '\t'), ('n', '\n'), ('f', '\x0c'), ('r', '\r'), ('e', '\x1b'), ('"', '"'),
   ('\\', '\\')]

def codePoint? (digits : List Char) : Option Char := do
  let code ← Text.hexNumber? digits
  if code.isValidChar then some (Char.ofNat code) else none

/-- How many digits follow the letter of a code point. -/
def codeLength? : Char → Option Nat
  | 'x' => some 2
  | 'u' => some 4
  | 'U' => some 8
  | _ => none

/-- What follows a line break that a backslash takes away, without the blanks after it. -/
def continuation? (input : List Char) : Option (List Char) :=
  match input.dropWhile isSpace with
  | '\n' :: rest => some (rest.dropWhile fun c => isSpace c || c == '\n')
  | _ => none

def readEscape (quoting : Quoting) : List Char → Option (List Char × List Char)
  | [] => none
  | c :: rest =>
    match simpleEscapes.find? (·.1 = c), codeLength? c with
    | some (_, meant), _ => some ([meant], rest)
    | none, some length => do
      if rest.length < length then none
      let meant ← codePoint? (rest.take length)
      return ([meant], rest.drop length)
    | none, none =>
      if quoting.multiline then (continuation? (c :: rest)).map ([], ·) else none

/-- The text after two closing quotes over several lines: up to two more belong to the text. -/
def closing (mark : Char) (acc : List Char) : List Char → List Char × List Char
  | c :: d :: rest =>
    if c = mark ∧ d = mark then ((mark :: mark :: acc).reverse, rest)
    else if c = mark then ((mark :: acc).reverse, d :: rest)
    else (acc.reverse, c :: d :: rest)
  | [c] => if c = mark then ((mark :: acc).reverse, []) else (acc.reverse, [c])
  | [] => (acc.reverse, [])

theorem length_continuation? {input rest : List Char} (read : continuation? input = some rest) :
    rest.length < input.length := by
  unfold continuation? at read
  have blanks := (List.dropWhile_suffix isSpace (l := input)).length_le
  split at read
  · rename_i tail found
    rw [found] at blanks
    have := (List.dropWhile_suffix (fun c => isSpace c || c == '\n') (l := tail)).length_le
    simp only [Option.some.injEq] at read
    rw [← read]
    simp only [List.length_cons] at blanks
    omega
  · simp at read

theorem length_readEscape {quoting : Quoting} {input meant rest}
    (read : readEscape quoting input = some (meant, rest)) : rest.length < input.length := by
  unfold readEscape at read
  split at read
  · simp at read
  · rename_i c tail
    split at read
    · simp at read; simp [read]
    · simp only [Option.pure_def, Option.bind_eq_bind] at read
      split at read
      · simp at read
      · simp only [Option.bind_eq_some_iff, Option.some.injEq, Prod.mk.injEq] at read
        obtain ⟨_, _, _, rfl⟩ := read
        simp only [List.length_drop, List.length_cons]
        omega
    · split at read
      · simp only [Option.map_eq_some_iff, Prod.mk.injEq] at read
        obtain ⟨_, found, _, rfl⟩ := read
        exact length_continuation? found
      · simp at read

def readQuoted (quoting : Quoting) (acc : List Char) : List Char → Option (List Char × List Char)
  | [] => none
  | c :: rest =>
    if c = quoting.mark then
      if quoting.multiline then
        match rest with
        | d :: e :: rest' =>
          if d = quoting.mark ∧ e = quoting.mark then some (closing quoting.mark acc rest')
          else readQuoted quoting (c :: acc) (d :: e :: rest')
        | _ => none
      else some (acc.reverse, rest)
    else if c = '\\' ∧ quoting.escapes then
      match h : readEscape quoting rest with
      | some (meant, rest') =>
        have := length_readEscape h
        readQuoted quoting (meant ++ acc) rest'
      | none => none
    else if isPlain c ∨ (c = '\n' ∧ quoting.multiline) then readQuoted quoting (c :: acc) rest
    else none
termination_by input => input.length
decreasing_by all_goals simp_all <;> omega

theorem length_closing (mark : Char) (acc input : List Char) :
    (closing mark acc input).2.length ≤ input.length := by
  unfold closing
  repeat' split
  all_goals simp only [List.length_cons]
  all_goals omega

theorem length_readQuoted {quoting : Quoting} {acc input : List Char} {content rest}
    (read : readQuoted quoting acc input = some (content, rest)) : rest.length < input.length := by
  fun_induction readQuoted quoting acc input with
  | case1 => simp at read
  | case2 => grind [length_closing]
  | case3 => grind
  | case4 => simp at read
  | case5 => grind
  | case6 => grind [length_readEscape]
  | case7 => simp at read
  | case8 => grind
  | case9 => simp at read

end Handoff.Toml
