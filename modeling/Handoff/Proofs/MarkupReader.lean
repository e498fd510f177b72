import Handoff.Markup.Basic

/-! Reading markup back from its text. The reader takes one character at a time and
keeps the elements that are still open on a stack, so a close tag is accepted only for
the innermost of them. It knows nothing of how a target prints: it accepts flags and
double-quoted attributes, elements that close themselves, and entities by name or number. -/

namespace Handoff.Markup

/-- Names of elements and attributes are spelled with letters, digits and hyphens. -/
def isNameChar (c : Char) : Bool := c.isAlphanum || c == '-'

/-- Entities that are known by a name. -/
def namedEntities : List (List Char × Char) :=
  [(['a', 'm', 'p'], '&'), (['l', 't'], '<'), (['g', 't'], '>'), (['q', 'u', 'o', 't'], '"'),
    (['a', 'p', 'o', 's'], '\'')]

def decimalValue (digits : List Char) : Nat :=
  digits.foldl (fun value digit => value * 10 + (digit.toNat - '0'.toNat)) 0

/-- The character of an entity, given what stands between its ampersand and its semicolon. -/
def entity? : List Char → Option Char
  | '#' :: digits =>
    if digits ≠ [] ∧ digits.all Char.isDigit ∧ (decimalValue digits).isValidChar then
      some (Char.ofNat (decimalValue digits))
    else none
  | name => (namedEntities.find? (·.1 = name)).map Prod.snd

/-- Replaces the entities of a text. What an open entity has so far is given in reverse. -/
def decodeAfter : Option (List Char) → List Char → Option (List Char)
  | none, [] => some []
  | some _, [] => none
  | none, '&' :: rest => decodeAfter (some []) rest
  | none, c :: rest => (decodeAfter none rest).map (c :: ·)
  | some name, ';' :: rest => (entity? name.reverse).bind fun c => (decodeAfter none rest).map (c :: ·)
  | some name, c :: rest => decodeAfter (some (c :: name)) rest

/-- The characters that a written text stands for. -/
def decode (written : List Char) : Option (List Char) := decodeAfter none written

/-- A start tag as far as it has been read, its attributes in reverse. -/
structure StartTag where
  name : String
  attributes : List Attribute

def StartTag.add (tag : StartTag) (last : Attribute) : StartTag :=
  { tag with attributes := last :: tag.attributes }

/-- Where the reader stands in the text. Characters that wait are in reverse. -/
inductive Phase where
  | content (waiting : List Char)
  | bracket
  | closing (name : List Char)
  | tagName (name : List Char)
  | gap (tag : StartTag)
  | attributeName (tag : StartTag) (name : List Char)
  | equals (tag : StartTag) (name : String)
  | value (tag : StartTag) (name : String) (waiting : List Char)
  | afterValue (tag : StartTag)
  | slash (tag : StartTag)

/-- An element that waits for its close tag, with what stands before it, in reverse. -/
structure OpenElement where
  tag : StartTag
  before : List Markup

/-- The state of a reader. The children so far of the innermost open element are in reverse. -/
structure Reader where
  phase : Phase
  stack : List OpenElement
  children : List Markup

def isElement : Markup → Bool
  | .text _ => false
  | .element .. => true

def isBlank : Markup → Bool
  | .text s => s.toList.all Char.isWhitespace
  | .element .. => false

/-- The children of an element: white space around elements has no meaning. -/
def settle (children : List Markup) : List Markup :=
  if children.any isElement then children.filter (!isBlank ·) else children

namespace Reader

def start : Reader := ⟨.content [], [], []⟩

def endText (reader : Reader) (waiting : List Char) (phase : Phase) : Option Reader :=
  if waiting.isEmpty then some { reader with phase }
  else (decode waiting.reverse).map fun text =>
    { reader with phase, children := .text (String.ofList text) :: reader.children }

/-- Ends the innermost open element, which must have the name of the close tag. -/
def close (reader : Reader) (name : String) : Option Reader :=
  match reader.stack with
  | [] => none
  | ⟨tag, before⟩ :: stack =>
    if tag.name = name then
      some ⟨.content [], stack, .element name tag.attributes.reverse (settle reader.children.reverse) :: before⟩
    else none

/-- Takes a character after a part of a start tag. -/
def afterPart (reader : Reader) (tag : StartTag) (c : Char) : Option Reader :=
  if c = '>' then some ⟨.content [], ⟨tag, reader.children⟩ :: reader.stack, []⟩
  else if c = '/' then some { reader with phase := .slash tag }
  else if c.isWhitespace then some { reader with phase := .gap tag }
  else none

def step (reader : Reader) (c : Char) : Option Reader :=
  match reader.phase with
  | .content waiting =>
    if c = '<' then reader.endText waiting .bracket
    else if c = '>' then none
    else some { reader with phase := .content (c :: waiting) }
  | .bracket =>
    if c = '/' then some { reader with phase := .closing [] }
    else if isNameChar c then some { reader with phase := .tagName [c] }
    else none
  | .closing name =>
    if c = '>' then reader.close (String.ofList name.reverse)
    else if isNameChar c then some { reader with phase := .closing (c :: name) }
    else none
  | .tagName name =>
    if isNameChar c then some { reader with phase := .tagName (c :: name) }
    else reader.afterPart ⟨String.ofList name.reverse, []⟩ c
  | .gap tag =>
    if isNameChar c then some { reader with phase := .attributeName tag [c] }
    else reader.afterPart tag c
  | .attributeName tag name =>
    if isNameChar c then some { reader with phase := .attributeName tag (c :: name) }
    else if c = '=' then some { reader with phase := .equals tag (String.ofList name.reverse) }
    else reader.afterPart (tag.add (.flag (String.ofList name.reverse))) c
  | .equals tag name =>
    if c = '"' then some { reader with phase := .value tag name [] } else none
  | .value tag name waiting =>
    if c = '"' then
      (decode waiting.reverse).map fun value =>
        { reader with phase := .afterValue (tag.add (.value name (String.ofList value))) }
    else some { reader with phase := .value tag name (c :: waiting) }
  | .afterValue tag => reader.afterPart tag c
  | .slash tag =>
    if c = '>' then
      some
        { reader with phase := .content [], children := .element tag.name tag.attributes.reverse [] :: reader.children }
    else none

def run (reader : Reader) (text : List Char) : Option Reader := text.foldlM step reader

/-- What has been read when the text ends: nothing may be open. -/
def finish (reader : Reader) : Option (List Markup) :=
  match reader.phase, reader.stack with
  | .content waiting, [] => (reader.endText waiting (.content [])).map fun reader => settle reader.children.reverse
  | _, _ => none

end Reader

/-- The element that a text spells, if it spells one. -/
def read (text : String) : Option Markup :=
  match (Reader.start.run text.toList).bind Reader.finish with
  | some [.element tag attributes children] => some (.element tag attributes children)
  | _ => none

mutual

/-- Markup in which a text without characters is no child. -/
def withoutEmptyText : Markup → Markup
  | .text s => .text s
  | .element tag attributes children => .element tag attributes (allWithoutEmptyText children)

def allWithoutEmptyText : List Markup → List Markup
  | [] => []
  | .text s :: rest => if s.isEmpty then allWithoutEmptyText rest else .text s :: allWithoutEmptyText rest
  | .element tag attributes children :: rest =>
    withoutEmptyText (.element tag attributes children) :: allWithoutEmptyText rest

end

/-- Where a character of markup stands. -/
inductive Zone where
  | content
  | tag
  | value
  deriving DecidableEq

/-- The zone of what follows a character. -/
def Zone.after : Zone → Char → Zone
  | .content, c => if c = '<' then .tag else .content
  | .tag, c => if c = '>' then .content else if c = '"' then .value else .tag
  | .value, c => if c = '"' then .tag else .value

/-- The characters of markup that stand outside double-quoted attribute values. -/
def outsideValues : Zone → List Char → List Char
  | _, [] => []
  | zone, c :: rest =>
    if zone = .value then outsideValues (zone.after c) rest
    else c :: outsideValues (zone.after c) rest

end Handoff.Markup
