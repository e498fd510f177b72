import Handoff.Text.Composition
import Handoff.Text.Parts
import Handoff.Text.Property.Direction
import Handoff.Text.Property.Joining
import Handoff.Text.Property.Mark
import Handoff.Url.Encoding
import Handoff.Url.Name.Table
import Handoff.Url.Punycode

/-!
Names of hosts and their labels, the parts between full stops. Names are compared in one form,
without capitals and without forms that only look different. A label outside ASCII is shown in its
own script and written in ASCII, and either form can be read.
-/
namespace Handoff.Url.Name

/-- The code points that a code point of a name stands for, which may be none. -/
def meaning? (code : Nat) : Option (List Nat) :=
  if Text.Span.tableContains refused code then none
  else if Text.Span.tableContains ignored code then some []
  else
    match Text.Span.tableFind? steps code with
    | some (span, target) => some [target + (code - span.first)]
    | none => some ((Text.lookUp? expansions code).getD [code])

/-- A name in the form in which names are compared, unless it has a character that no name has. -/
def canonical? (name : List Char) : Option (List Char) := do
  let meanings ← name.mapM fun c => meaning? c.toNat
  return Text.composed (meanings.flatten.map Char.ofNat)

def isAscii (label : List Char) : Bool := label.all fun c => decide (c.toNat < 128)

/-! The two forms -/

/-- What starts the ASCII form of a label. -/
def asciiMark : List Char := ['x', 'n', '-', '-']

/-- Longer labels are not decoded. -/
def longestEncoded : Nat := 2000

/-- Longer labels outside ASCII are not encoded. -/
def longestShown : Nat := 1000

/-- A label as it is shown, given either form of it. What an ASCII form stands for must be
canonical. -/
def shown? (label : List Char) : Option (List Char) :=
  if asciiMark.isPrefixOf label then do
    let digits := label.drop asciiMark.length
    if label.getLast? = some '-' ∨ longestEncoded < digits.length then none
    let decoded ← readPunycode? digits
    if canonical? decoded = some decoded then some decoded else none
  else some label

def ascii (label : List Char) : List Char :=
  if isAscii label then label else asciiMark ++ punycode label

/-! Joiners -/

/-- The class of marks after which letters may be joined. -/
def viramaClass : Nat := 9

/-- Whether the first character that is not joined across has a property. -/
def meets (property : List Text.Span) (chars : List Char) : Bool :=
  match chars.dropWhile fun c => Text.Span.tableContains Text.Property.joinTransparent c.toNat with
  | [] => false
  | c :: _ => Text.Span.tableContains property c.toNat

/-- Whether a joiner may stand between two parts of a label, the first of which is in reverse: after
a virama, and a non-joiner also between letters that would join. -/
def mayJoin (joiner : Char) (before after : List Char) : Bool :=
  match before with
  | [] => false
  | previous :: _ =>
    Text.combiningClass previous == viramaClass
      || (joiner == '\u200c' && meets Text.Property.joinsNext before
        && meets Text.Property.joinsPrevious after)

/-- Whether all joiners of a label are in their places, given what precedes it in reverse. -/
def joinersFit (before : List Char) : List Char → Bool
  | [] => true
  | c :: rest =>
    (!(c == '\u200c' || c == '\u200d') || mayJoin c before rest) && joinersFit (c :: before) rest

/-- A label starts with no mark, its joiners are in their places, and its length is limited. -/
def isLabel (label : List Char) : Bool :=
  !(label.take 1).any (fun c => Text.Span.tableContains Text.Property.mark c.toNat)
    && joinersFit [] label && (isAscii label || decide (label.length ≤ longestShown))

/-! Directions -/

/-- What may stand inside a label that is written from left to right. -/
def insideLeftToRight : List Text.Direction :=
  [.leftToRight, .europeanNumber, .neutral, .nonspacing]

/-- What may stand inside a label that is written from right to left. -/
def insideRightToLeft : List Text.Direction :=
  [.rightToLeft, .arabicNumber, .europeanNumber, .neutral, .nonspacing]

/-- Whether directions that follow the first one keep to it: all of them may stand there, the last
one apart from marks is that of a letter or a digit, and digits are of one kind. -/
def keepsTo (first : Text.Direction) (others : List Text.Direction) : Bool :=
  let inner := (others.reverse.dropWhile (· == .nonspacing)).reverse
  match first with
  | .leftToRight =>
    inner.all insideLeftToRight.contains
      && inner.getLast?.all [Text.Direction.leftToRight, .europeanNumber].contains
  | .rightToLeft =>
    inner.all insideRightToLeft.contains
      && inner.getLast?.all [Text.Direction.rightToLeft, .europeanNumber, .arabicNumber].contains
      && !(inner.contains .europeanNumber && inner.contains .arabicNumber)
  | _ => false

/-- Whether a label has one direction, which its first letter gives. -/
def hasOneDirection (label : List Char) : Bool :=
  match label.map Text.direction with
  | [] => true
  | first :: others => keepsTo first others

/-- Whether a label has something that is written from right to left. -/
def turns (label : List Char) : Bool :=
  label.any fun c =>
    [Text.Direction.rightToLeft, .arabicNumber].contains (Text.direction c)

/-! Whole names -/

/-- Characters that no name of a host has, apart from controls. -/
def reserved : List Char :=
  [' ', '%', '#', '/', ':', '<', '>', '?', '@', '[', '\\', ']', '^', '|']

/-- Whether a name has a character that is reserved in addresses. -/
def hasReserved (name : List Char) : Bool :=
  name.any fun c => reserved.contains c || decide (c < ' ') || c == '\x7f'

/-- Labels as they are shown, if they are valid together: once a label is written from right to
left, each label must have one direction. -/
def areLabels (labels : List (List Char)) : Bool :=
  labels.all isLabel && (!labels.any turns || labels.all hasOneDirection)

def ascii? (name : List Char) : Option (List Char) := do
  let name ← canonical? name
  if hasReserved name then none
  let labels ← (Text.split '.' name).mapM shown?
  if areLabels labels then some (Text.join '.' (labels.map ascii)) else none

end Handoff.Url.Name
