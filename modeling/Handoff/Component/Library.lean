import Handoff.Design.Role
import Handoff.Markup.Basic

/-!
Component libraries: which element of a library stands for a role, and what it needs.
-/
namespace Handoff.Component

/-- The element of a library that stands for a role. -/
structure Wrapper where
  tag : String
  /-- Bare attributes right after the tag. -/
  directives : List String
  /-- Where the symbols come from. -/
  module : String
  symbols : List String
  /-- Attributes that are always there. -/
  properties : List Attribute
  /-- Whether it takes content. -/
  hasSlot : Bool

/-- The attributes of a wrapper: directives, classes and then properties. -/
def Wrapper.attributes (wrapper : Wrapper) (classAttribute classes : String) : List Attribute :=
  wrapper.directives.map .flag ++ Markup.classAttribute classAttribute classes ++ wrapper.properties

def Wrapper.element (wrapper : Wrapper) (classAttribute classes : String) (children : List Markup) :
    Markup :=
  .element wrapper.tag (wrapper.attributes classAttribute classes) children

/-- A part of a card. -/
structure Part where
  tag : String
  directives : List String

def Part.element (part : Part) (children : List Markup) : Markup :=
  .element part.tag (part.directives.map .flag) children

/-- The parts that a card is made of. -/
structure CardParts where
  header : Part
  title : Part
  content : Part
  footer : Part

/-- A library: its wrappers by role, and the parts of its cards if it has them. -/
structure Library where
  wrappers : List (Role × Wrapper)
  cardParts : Option CardParts

/-- The wrapper of a role, the first one if several are listed. -/
def Library.wrapper? (library : Library) (role : Role) : Option Wrapper :=
  (library.wrappers.find? (·.1 = role)).map Prod.snd

end Handoff.Component
