import Handoff.Toml.Scalar
import Handoff.Toml.Token

/-!
Reading TOML text. The tokens are taken one at a time; a key whose value is being read, and the
arrays and tables around it, wait on a stack.
-/
namespace Handoff.Toml

/-- What waits for a value. What an array holds so far is in reverse, and so are the parts of a
key. -/
inductive Frame where
  /-- A key on a line of its own. -/
  | line (key : List String)
  | array (items : List Value)
  /-- A key of a table in braces. -/
  | table (entries : Entries) (key : List String)

/-- What a key is read for. -/
inductive Purpose where
  | assignment
  | tableHeader
  | tablesHeader
  deriving DecidableEq

/-- What the next token may be. -/
inductive Expectation where
  | lineStart
  | lineEnd
  /-- What follows the first bracket of a header. -/
  | headerStart
  /-- The second bracket that closes the header of a list of tables. -/
  | headerClose (key : List String)
  /-- Another part of a key. -/
  | keyPart (purpose : Purpose) (key : List String)
  /-- What follows a part of a key. -/
  | keyNext (purpose : Purpose) (key : List String)
  /-- The value of a key. -/
  | value
  /-- What follows a word that starts a value. -/
  | word (chars : List Char)
  /-- What follows a word and a dot in a value. -/
  | fraction (chars : List Char)
  /-- A value of an array, or its end. -/
  | item
  | afterItem
  /-- A key of a table in braces, or the table's end. -/
  | entry
  | afterEntry

/-- A text in the middle of being read. -/
structure Progress where
  document : Entries
  /-- The table that lines belong to. -/
  header : List String
  stack : List Frame
  expected : Expectation

namespace Progress

def start : Progress := ⟨[], [], [], .lineStart⟩

def expecting (progress : Progress) (expected : Expectation) : Option Progress :=
  some { progress with expected }

/-- A value has been read for whatever waits for it. -/
def finish (progress : Progress) (value : Value) : Option Progress :=
  match progress.stack with
  | .line (last :: path) :: stack => do
    let document ← progress.document.assignIn progress.header path.reverse last value
    return { progress with document, stack, expected := .lineEnd }
  | .array items :: stack =>
    some { progress with stack := .array (value :: items) :: stack, expected := .afterItem }
  | .table entries (last :: path) :: stack => do
    let entries ← entries.assign path.reverse last value
    return { progress with stack := .table entries [] :: stack, expected := .afterEntry }
  | _ => none

/-- The end of an array or of a table in braces. -/
def close (progress : Progress) : Option Progress :=
  match progress.stack with
  | .array items :: stack => { progress with stack }.finish (.array items.reverse)
  | .table entries _ :: stack => { progress with stack }.finish (.table .inline entries)
  | _ => none

/-- A key with dots has been read up to its equals sign. -/
def waitForValue (progress : Progress) (key : List String) : Option Progress :=
  match progress.stack with
  | .table entries _ :: stack =>
    some { progress with stack := .table entries key :: stack, expected := .value }
  | stack => some { progress with stack := .line key :: stack, expected := .value }

def enterTable (progress : Progress) (purpose : Purpose) (key : List String) : Option Progress :=
  match key with
  | [] => none
  | last :: path => do
    let document ←
      if purpose = .tablesHeader then progress.document.openTables path.reverse last
      else progress.document.openTable path.reverse last
    return { progress with document, header := key.reverse, expected := .lineEnd }

/-- Keys without quotes have letters, digits, hyphens and underscores. -/
def isBareKey (chars : List Char) : Bool :=
  !chars.isEmpty && chars.all fun c => c.isAlphanum || c == '-' || c == '_'

/-- The part of a key that a token is. -/
def keyPart? : Token → Option String
  | .word chars => if isBareKey chars then some (String.ofList chars) else none
  | .quoted text false => some text
  | _ => none

def takeKeyPart (progress : Progress) (purpose : Purpose) (key : List String) (token : Token) :
    Option Progress := do
  let part ← keyPart? token
  progress.expecting (.keyNext purpose (part :: key))

def takeValue (progress : Progress) : Token → Option Progress
  | .quoted text _ => progress.finish (.text text)
  | .word chars => progress.expecting (.word chars)
  | .openBracket => some { progress with stack := .array [] :: progress.stack, expected := .item }
  | .openBrace => some { progress with stack := .table [] [] :: progress.stack, expected := .entry }
  | _ => none

def takeAfter (progress : Progress) (token : Token) : Option Progress :=
  match progress.expected, token with
  | .lineEnd, .blank => some progress
  | .lineEnd, .newline => progress.expecting .lineStart
  | .afterItem, .blank | .afterItem, .newline => some progress
  | .afterItem, .comma => progress.expecting .item
  | .afterItem, .closeBracket => progress.close
  | .afterEntry, .blank | .afterEntry, .newline => some progress
  | .afterEntry, .comma => progress.expecting .entry
  | .afterEntry, .closeBrace => progress.close
  | _, _ => none

def take (progress : Progress) (token : Token) : Option Progress :=
  match progress.expected, token with
  | .lineStart, .blank | .lineStart, .newline => some progress
  | .lineStart, .openBracket => progress.expecting .headerStart
  | .lineStart, token => progress.takeKeyPart .assignment [] token
  | .headerStart, .openBracket => progress.expecting (.keyPart .tablesHeader [])
  | .headerStart, .blank => progress.expecting (.keyPart .tableHeader [])
  | .headerStart, token => progress.takeKeyPart .tableHeader [] token
  | .headerClose key, .closeBracket => progress.enterTable .tablesHeader key
  | .keyPart _ _, .blank => some progress
  | .keyPart purpose key, token => progress.takeKeyPart purpose key token
  | .keyNext _ _, .blank => some progress
  | .keyNext purpose key, .dot => progress.expecting (.keyPart purpose key)
  | .keyNext .assignment key, .equals => progress.waitForValue key
  | .keyNext .tableHeader key, .closeBracket => progress.enterTable .tableHeader key
  | .keyNext .tablesHeader key, .closeBracket => progress.expecting (.headerClose key)
  | .value, .blank => some progress
  | .value, token => progress.takeValue token
  | .word chars, .dot => progress.expecting (.fraction (chars ++ ['.']))
  | .word chars, token => do
    let progress ← progress.finish (← scalar? chars)
    progress.takeAfter token
  | .fraction chars, .word more => progress.expecting (.word (chars ++ more))
  | .item, .blank | .item, .newline => some progress
  | .item, .closeBracket => progress.close
  | .item, token => progress.takeValue token
  | .entry, .blank | .entry, .newline => some progress
  | .entry, .closeBrace => progress.close
  | .entry, token => progress.takeKeyPart .assignment [] token
  | _, token => progress.takeAfter token

end Progress

/-- The table that a TOML text describes, if it describes one. -/
def parse (s : String) : Option Entries := do
  let tokens ← tokens s.toList
  let progress ← (tokens ++ [Token.newline]).foldlM Progress.take .start
  match progress.expected with
  | .lineStart => some progress.document
  | _ => none

end Handoff.Toml
