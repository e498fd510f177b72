import Handoff.Interpretation.Design
import Handoff.Manifest.Basic
import Handoff.Service.Resolution

/-!
Fetching the design that a manifest names, with the addresses of its pictures.
-/
namespace Handoff.Site

/-- Why there is no design. -/
inductive FetchFailure where
  | service (error : Service.Failure)
  | design (error : Interpretation.MissingRoot)

def FetchFailure.message : FetchFailure → String
  | .service _ => "Failed to fetch design document"
  | .design _ => "Failed to parse design document"

/-- A design with the report on its pictures, if they were asked for. -/
structure Fetched where
  design : Design
  assets : Option Service.AssetReport

def fetch (transport : Service.Transport) (now : Nat) (manifest : Manifest) (withAssets : Bool)
    (client : Service.Client) : Except FetchFailure Fetched × Service.Client :=
  match client.fetch transport now manifest.source.fileKey [manifest.source.nodeId] with
  | (.error error, client) => (.error (.service error), client)
  | (.ok document, client) =>
    match Interpretation.designOf document manifest.source.nodeId with
    | .error error => (.error (.design error), client)
    | .ok design =>
      if withAssets && manifest.assets.enabled then
        let asked := ⟨manifest.source.fileKey, manifest.assets.format, manifest.assets.scale⟩
        let (report, design, client) := client.resolveDesign transport asked design
        (.ok ⟨design, some report⟩, client)
      else (.ok ⟨design, none⟩, client)

end Handoff.Site
