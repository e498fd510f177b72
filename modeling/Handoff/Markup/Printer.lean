import Handoff.Code.Builder
import Handoff.Markup.Basic
import Handoff.Text.Escape

/-!
Printing markup. An element without children closes itself where its style allows it, one with
nothing but text stays on its line, and any other has its children on indented lines of their own.
Some characters are written as entities.
-/
namespace Handoff.Markup

/-- What may not stand for itself in a double-quoted attribute value. -/
def attributeEntities : Text.EscapeTable := [('&', "&amp;"), ('"', "&quot;")]

/-- What may not stand for itself in text: characters that open or close tags and expressions. -/
def textEntities : Text.EscapeTable :=
  [('&', "&amp;"), ('<', "&lt;"), ('>', "&gt;"), ('\x7b', "&#123;"), ('\x7d', "&#125;")]

/-- Which elements without children may close themselves: all of them, or those that never have
content and those of a library, whose names have a hyphen. -/
inductive SelfClosing where
  | always
  | voidOrCustom
  deriving DecidableEq

def voidElements : List String :=
  ["area", "base", "br", "col", "embed", "hr", "img", "input", "link", "meta", "source", "track",
   "wbr"]

/-- How a target spells markup. -/
structure Style where
  /-- The attribute that holds classes. -/
  classAttribute : String
  textEntities : Text.EscapeTable
  selfClosing : SelfClosing
  /-- The level of the outermost element. -/
  baseLevel : Nat

def SelfClosing.allows (selfClosing : SelfClosing) (tag : String) : Bool :=
  match selfClosing with
  | .always => true
  | .voidOrCustom => voidElements.contains tag || tag.toList.contains '-'

def writeAttribute : Attribute → String
  | .flag name => " " ++ name
  | .value name value => " " ++ name ++ "=\"" ++ Text.escape attributeEntities value ++ "\""

/-- A tag with its attributes, up to its end. -/
def openTag (tag : String) (attributes : List Attribute) : String :=
  "<" ++ tag ++ String.join (attributes.map writeAttribute)

def closeTag (tag : String) : String := "</" ++ tag ++ ">"

namespace Style

mutual

/-- Adds an element or a text to text so far. -/
def printInto (style : Style) (b : CodeBuilder) : Markup → CodeBuilder
  | .text s => b.line (Text.escape style.textEntities s)
  | .element tag attributes children =>
    match children, texts? children with
    | [], _ =>
      if style.selfClosing.allows tag then b.line (openTag tag attributes ++ " />")
      else b.line (openTag tag attributes ++ ">" ++ closeTag tag)
    | _, some texts =>
      b.line (openTag tag attributes ++ ">"
        ++ String.join (texts.map (Text.escape style.textEntities)) ++ closeTag tag)
    | _, none =>
      ((printAllInto style (b.line (openTag tag attributes ++ ">")).indent children).dedent).line
        (closeTag tag)

def printAllInto (style : Style) (b : CodeBuilder) : List Markup → CodeBuilder
  | [] => b
  | child :: rest => printAllInto style (printInto style b child) rest

end

/-- Markup from the style's level on, without the line end that closes it. -/
def print (style : Style) (markup : Markup) : String :=
  (style.printInto (.atLevel style.baseLevel) markup).trimmed

end Style

end Handoff.Markup
