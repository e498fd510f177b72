/-!
Markup trees, independent of how a target spells them.
-/
namespace Handoff

/-- An attribute is a bare name or has a value. -/
inductive Attribute where
  | flag (name : String)
  | value (name value : String)
  deriving DecidableEq

def Attribute.name : Attribute → String
  | .flag name => name
  | .value name _ => name

/-- Text as it is meant, or an element with its attributes and children in order. -/
inductive Markup where
  | text (text : String)
  | element (tag : String) (attributes : List Attribute) (children : List Markup)

namespace Markup

/-- The attribute that holds classes, left out when there are none. -/
def classAttribute (name classes : String) : List Attribute :=
  if classes.isEmpty then [] else [.value name classes]

/-- The texts of children that are all text. -/
def texts? (children : List Markup) : Option (List String) :=
  children.mapM fun
    | .text s => some s
    | .element .. => none

end Markup

end Handoff
