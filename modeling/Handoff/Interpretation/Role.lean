import Handoff.Design.Role
import Handoff.Document.Basic
import Handoff.Text.Letter
import Handoff.Text.Parts

/-!
Which role a shape plays. An ordered list of rules looks at a shape's kind, its paint, its extent
and its label in small letters; the first rule that applies decides. The order matters: a label such
as "table" is caught by an earlier rule for "tab".
-/
namespace Handoff.Interpretation

/-- What a rule asks of a shape and its label. -/
inductive Condition where
  | kind (kind : Document.Kind)
  | image
  | ellipseNamed (word : String)
  | vectorNamed (word : String)
  | dividingVector
  | vector
  | keywords (words : List String)
  | container

structure Rule where
  condition : Condition
  role : Role

def mentions (label : List Char) (word : String) : Bool := Text.occursIn word.toList label

/-- A line, or a shape that is thin in exactly one direction. -/
def isStraight (shape : Document.Shape) : Bool :=
  shape.kind == .line ||
    match shape.absoluteBoundingBox with
    | some box => decide (box.width ≤ 1) != decide (box.height ≤ 1)
    | none => false

def Condition.holds (shape : Document.Shape) (label : List Char) : Condition → Bool
  | .kind wanted => shape.kind == wanted
  | .image => shape.kind == .rectangle && shape.hasImageFill
  | .ellipseNamed word => shape.kind == .ellipse && mentions label word
  | .vectorNamed word => shape.kind.isVector && mentions label word
  | .dividingVector =>
    shape.kind.isVector
      && (mentions label "divider" || mentions label "separator" || isStraight shape)
  | .vector => shape.kind.isVector
  | .keywords words => words.any (mentions label)
  | .container => shape.kind.isContainer

/-- The rules, the deciding ones first. -/
def rules : List Rule :=
  [⟨.kind .text, .text⟩,
   ⟨.image, .image⟩,
   ⟨.ellipseNamed "avatar", .avatar⟩,
   ⟨.vectorNamed "icon", .icon⟩,
   ⟨.dividingVector, .divider⟩,
   ⟨.vector, .icon⟩,
   ⟨.keywords ["button", "btn", "cta"], .button⟩,
   ⟨.keywords ["input", "text field", "textfield"], .input⟩,
   ⟨.keywords ["textarea", "text area"], .textarea⟩,
   ⟨.keywords ["select", "dropdown", "combobox"], .select⟩,
   ⟨.keywords ["checkbox", "check box"], .checkbox⟩,
   ⟨.keywords ["switch", "toggle"], .switch⟩,
   ⟨.keywords ["card"], .card⟩,
   ⟨.keywords ["dialog", "modal", "popup"], .dialog⟩,
   ⟨.keywords ["avatar", "profile pic"], .avatar⟩,
   ⟨.keywords ["badge", "tag", "chip"], .badge⟩,
   ⟨.keywords ["alert", "toast", "notification"], .alert⟩,
   ⟨.keywords ["tab"], .tabs⟩,
   ⟨.keywords ["accordion", "collapsible", "expand"], .accordion⟩,
   ⟨.keywords ["table"], .table⟩,
   ⟨.keywords ["nav", "header", "topbar", "appbar"], .navbar⟩,
   ⟨.keywords ["sidebar", "drawer", "sidenav"], .sidebar⟩,
   ⟨.keywords ["footer"], .footer⟩,
   ⟨.keywords ["hero", "banner", "jumbotron"], .hero⟩,
   ⟨.keywords ["link", "anchor"], .link⟩,
   ⟨.keywords ["label", "caption"], .label⟩,
   ⟨.keywords ["image", "img", "photo", "thumbnail"], .image⟩,
   ⟨.keywords ["divider", "separator", "hr"], .divider⟩,
   ⟨.container, .container⟩]

def labelOf (shape : Document.Shape) : List Char := Text.lowercaseAfter [] shape.name.toList

def Rule.applies (shape : Document.Shape) (rule : Rule) : Bool :=
  rule.condition.holds shape (labelOf shape)

/-- The place of the rule that decides a shape's role. -/
def decidingRule (shape : Document.Shape) : Option Nat := rules.findIdx? (·.applies shape)

def roleOf (shape : Document.Shape) : Role :=
  match rules.find? (·.applies shape) with
  | some rule => rule.role
  | none => .unknown

end Handoff.Interpretation

namespace Handoff.Role

/-- Whether layers of a role respond to a reader. -/
def isInteractive : Role → Bool
  | .button | .input | .textarea | .select | .checkbox | .switch | .dialog | .tabs | .accordion
  | .link | .navbar | .sidebar => true
  | _ => false

/-- The interaction that layers of a role most likely expect. -/
def interaction : Role → Option Interaction
  | .button | .link | .card => some .click
  | .input | .textarea | .select => some .input
  | .checkbox | .switch => some .toggle
  | .navbar | .sidebar | .tabs => some .navigation
  | _ => none

end Handoff.Role
