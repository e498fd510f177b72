import Handoff.Binary64.Decimal
import Handoff.Classes.Tokens
import Handoff.Path
import Handoff.Service.Exchange
import Handoff.Target
import Handoff.Text.Parts

/-!
Manifests: where a design lives, what is made of it and where that goes.
-/
namespace Handoff

namespace Manifest

/-- The design file, the layer that a page shows, and how the service is asked for them. -/
structure Source where
  fileKey : String
  nodeId : String
  /-- The environment variable that holds the access token. -/
  tokenVariable : String
  baseUrl : String
  /-- How long documents are remembered, in seconds. -/
  timeToLive : Nat
  deriving DecidableEq

/-- What is written, and where. -/
structure Output where
  directory : Path
  targets : List Target
  page : String
  title : String
  description : String
  deriving DecidableEq

/-- Whether and how pictures are exported. -/
structure Assets where
  enabled : Bool
  format : AssetFormat
  scale : Binary64
  deriving DecidableEq

/-- A part of the page that becomes a component. -/
structure Section where
  name : String
  nodeId : String
  /-- When the component becomes live; if nothing is said, that follows from what it holds. -/
  activation : Option Activation
  deriving DecidableEq

def defaultTokenVariable : String := "FIGMA_PERSONAL_ACCESS_TOKEN"

def Output.default : Output := ⟨⟨"generated"⟩, [.react], "index", "", ""⟩

def Assets.default : Assets := ⟨true, .png, 2⟩

namespace Output

def componentsDirectory (output : Output) : Path := output.directory / "components" / "sections"

def pagePath (output : Output) : Path := output.directory / "pages" / (output.page ++ ".astro")

/-- Where the stylesheet that the page imports is written. -/
def stylesheetPath (output : Output) : Path := output.directory / "styles" / "global.css"

end Output

end Manifest

/-- A manifest. -/
structure Manifest where
  source : Manifest.Source
  output : Manifest.Output
  assets : Manifest.Assets
  /-- Colours with the names of their variables. -/
  tokens : List (String × String)
  /-- The parts of the page; if there are none, they follow from the design. -/
  sections : List Manifest.Section
  deriving DecidableEq

namespace Manifest

def defaultName : String := "figura.toml"

def tokenMap (manifest : Manifest) : Classes.TokenMap := .ofList manifest.tokens

/-- The settings of a client with an access token. -/
def settings (manifest : Manifest) (token : String) : Service.Settings :=
  { Service.Settings.ofToken token with
    baseUrl := String.ofList (Text.dropFinal (· == '/') manifest.source.baseUrl.toList)
    timeToLive := manifest.source.timeToLive }

/-! The access token of a manifest, which an environment variable holds -/

/-- Why there is no access token. -/
inductive TokenFailure where
  | unset (name : String)
  | empty (name : String)
  deriving DecidableEq

def TokenFailure.message : TokenFailure → String
  | .unset name => "Environment variable " ++ name ++ " is not set"
  | .empty name => "Environment variable " ++ name ++ " is empty"

/-- The access token, without blanks at its ends, given what the variable of the manifest holds. -/
def accessToken (manifest : Manifest) (held : Option String) : Except TokenFailure String :=
  match held with
  | none => .error (.unset manifest.source.tokenVariable)
  | some value =>
    let token := Text.trim value
    if token.isEmpty then .error (.empty manifest.source.tokenVariable) else .ok token

end Manifest

end Handoff
