import Handoff.Classes.Surface

/-!
Classes for typography.
-/
namespace Handoff.Classes

def fontSizes : List (Binary64 × String) :=
  [(12, "text-xs"), (14, "text-sm"), (16, "text-base"), (18, "text-lg"), (20, "text-xl"),
   (24, "text-2xl"), (30, "text-3xl"), (36, "text-4xl"), (48, "text-5xl"), (60, "text-6xl"),
   (72, "text-7xl"), (96, "text-8xl"), (128, "text-9xl")]

def fontSizeClass (size : Binary64) : String :=
  match fontSizes.find? (·.1.equals size) with
  | some (_, name) => name
  | none => "text-[" ++ quantity size ++ "px]"

def fontWeights : List (UInt16 × String) :=
  [(100, "font-thin"), (200, "font-extralight"), (300, "font-light"), (400, "font-normal"),
   (500, "font-medium"), (600, "font-semibold"), (700, "font-bold"), (800, "font-extrabold"),
   (900, "font-black")]

def fontWeightClass (weight : UInt16) : String :=
  match fontWeights.find? (·.1 = weight) with
  | some (_, name) => name
  | none => "font-[" ++ toString weight.toNat ++ "]"

def textAlignClass? : TextAlign → Option String
  | .left => none
  | .center => some "text-center"
  | .right => some "text-right"
  | .justify => some "text-justify"

def textTransformClass? : TextTransform → Option String
  | .none => Option.none
  | .uppercase => some "uppercase"
  | .lowercase => some "lowercase"
  | .capitalize => some "capitalize"

def textDecorationClass? : TextDecoration → Option String
  | .none => Option.none
  | .underline => some "underline"
  | .lineThrough => some "line-through"

def textStyleClasses (style : TextStyle) : List String :=
  [fontSizeClass style.fontSize, fontWeightClass style.fontWeight]
    ++ (textAlignClass? style.textAlign).toList
    ++ (textTransformClass? style.textTransform).toList
    ++ (textDecorationClass? style.textDecoration).toList
    ++ (if style.italic then ["italic"] else [])

end Handoff.Classes
