import Handoff.Binary64.Text
import Handoff.Manifest.Basic
import Handoff.Manifest.Diagnostic
import Handoff.Naming
import Handoff.Text.Escape

/-!
What makes a manifest unusable. The flaws of a manifest are listed in the order in which they are
reported, and only the first one is.
-/
namespace Handoff.Manifest

inductive Flaw where
  /-- A required text has nothing but blanks. -/
  | empty (key : String)
  | notWebAddress (url : String)
  | noDirectory
  | noTargets
  | repeatedTarget (target : Target)
  | pageName (name : String)
  | scale (value : Binary64)
  | tokenColor (color : String)
  | tokenVariable (color name : String)
  | sectionName (name : String)
  | repeatedSection (name : String)
  deriving DecidableEq

namespace Flaw

def message : Flaw → String
  | .empty key => "'" ++ key ++ "' cannot be empty"
  | .notWebAddress url => "base_url must be an http(s) URL, got '" ++ url ++ "'"
  | .noDirectory => "output dir cannot be empty"
  | .noTargets => "at least one target is required"
  | .repeatedTarget target => "target '" ++ Named.name target ++ "' is listed twice"
  | .pageName name => "page name '" ++ name ++ "' must be kebab-case"
  | .scale value => "asset scale must be in (0, 4], got " ++ value.plain
  | .tokenColor color => "token key '" ++ color ++ "' must be a 6-digit hex color"
  | .tokenVariable color _ => "token '" ++ color ++ "' needs a CSS custom property name"
  | .sectionName name => "section name '" ++ name ++ "' must be PascalCase"
  | .repeatedSection name => "section '" ++ name ++ "' is defined twice"

/-- The key that a flaw is about, and its value where that is what is wrong. -/
def place : Flaw → String × Option String
  | .empty key => (key, none)
  | .notWebAddress url => ("base_url", some url)
  | .noDirectory => ("dir", none)
  | .noTargets => ("targets", none)
  | .repeatedTarget _ => ("targets", none)
  | .pageName name => ("page", some name)
  | .scale _ => ("scale", none)
  | .tokenColor color => (color, some color)
  | .tokenVariable color name => (color, some name)
  | .sectionName name => ("name", some name)
  | .repeatedSection name => ("name", some name)

/-- The flaw at its place in the manifest's text. -/
def diagnostic (flaw : Flaw) (source : SourceText) : Diagnostic :=
  match flaw.place with
  | (key, none) => source.atKey flaw.message key
  | (key, some value) => source.atValue flaw.message key value

end Flaw

def flawIf (wrong : Bool) (flaw : Flaw) : List Flaw := if wrong then [flaw] else []

def emptyFlaws (key value : String) : List Flaw := flawIf (Text.trim value).isEmpty (.empty key)

def isWebAddress (url : String) : Bool :=
  "https://".toList.isPrefixOf url.toList || "http://".toList.isPrefixOf url.toList

def Source.flaws (source : Source) : List Flaw :=
  emptyFlaws "file_key" source.fileKey ++ emptyFlaws "node_id" source.nodeId
    ++ emptyFlaws "token_env" source.tokenVariable
    ++ flawIf (!isWebAddress source.baseUrl) (.notWebAddress source.baseUrl)

/-- The items of a list that are equal to an earlier one, given those before the list. -/
def repeated {α : Type} [DecidableEq α] : List α → List α → List α
  | _, [] => []
  | seen, item :: rest => (if item ∈ seen then [item] else []) ++ repeated (item :: seen) rest

def Output.flaws (output : Output) : List Flaw :=
  flawIf output.directory.text.isEmpty .noDirectory ++ flawIf output.targets.isEmpty .noTargets
    ++ (repeated [] output.targets).map .repeatedTarget
    ++ flawIf (!Naming.isKebabCase output.page) (.pageName output.page)

/-- A scale is above zero and at most four. -/
def isScale (scale : Binary64) : Bool := 0 < scale && scale ≤ 4

def Assets.flaws (assets : Assets) : List Flaw :=
  flawIf (!isScale assets.scale) (.scale assets.scale)

/-- Six hexadecimal digits, which a number sign may precede. -/
def isHexColor (color : String) : Bool :=
  let digits := match color.toList with
    | '#' :: rest => rest
    | digits => digits
  digits.length == 6 && digits.all fun c => (Text.hexValue? c).isSome

/-- What is left of a variable's name without pairs of hyphens in front. -/
def dropHyphenPairs : List Char → List Char
  | '-' :: '-' :: rest => dropHyphenPairs rest
  | chars => chars

def tokenFlaws (token : String × String) : List Flaw :=
  flawIf (!isHexColor token.1) (.tokenColor token.1)
    ++ flawIf (dropHyphenPairs (Text.trim token.2).toList).isEmpty (.tokenVariable token.1 token.2)

/-- The flaws of sections, given the names of those before them. -/
def sectionFlaws : List String → List Section → List Flaw
  | _, [] => []
  | names, item :: rest =>
    flawIf (!Naming.isPascalCase item.name) (.sectionName item.name)
      ++ flawIf (item.name ∈ names) (.repeatedSection item.name)
      ++ emptyFlaws "node_id" item.nodeId
      ++ sectionFlaws (item.name :: names) rest

/-- The flaws of a manifest, in the order in which they are reported. -/
def flaws (manifest : Manifest) : List Flaw :=
  manifest.source.flaws ++ manifest.output.flaws ++ manifest.assets.flaws
    ++ manifest.tokens.flatMap tokenFlaws ++ sectionFlaws [] manifest.sections

end Handoff.Manifest
