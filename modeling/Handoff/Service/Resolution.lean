import Handoff.Design.Node
import Handoff.Service.Client

/-!
Giving a design the addresses of its exported pictures. A picture without an address is reported and
not an error.
-/
namespace Handoff.Service

/-- What came of a design's pictures. -/
structure AssetReport where
  /-- How many pictures were asked for. -/
  requested : Nat
  resolved : List String
  missing : List String
  /-- Why there are no addresses at all. -/
  failure : Option Failure
  deriving DecidableEq

def AssetReport.isComplete (report : AssetReport) : Bool :=
  report.missing.isEmpty && report.failure.isNone

/-- The root with addresses put in, and the ids that got one and those that did not. -/
def place (pictures : Pictures) (root : Node) : Node × List String × List String :=
  (pictures.entries.foldl (fun root (id, url) =>
      match url with
      | some url => Node.patchAsset root id url
      | none => root) root,
    (pictures.entries.filter (·.2.isSome)).map Prod.fst,
    (pictures.entries.filter (·.2.isNone)).map Prod.fst)

/-- Asks for the pictures of a design and puts their addresses in. -/
def Client.resolve (transport : Transport) (asked : Export) (root : Node) (client : Client) :
    AssetReport × Node × Client :=
  let ids := Node.assetIds root
  if ids.isEmpty then (⟨0, [], [], none⟩, root, client)
  else
    match client.exportPictures transport asked ids with
    | (.error error, client) => (⟨ids.length, [], ids, some error⟩, root, client)
    | (.ok pictures, client) =>
      let (root, resolved, missing) := place pictures root
      (⟨ids.length, resolved, missing, none⟩, root, client)

def Client.resolveDesign (transport : Transport) (asked : Export) (design : Design) (client : Client) :
    AssetReport × Design × Client :=
  let (report, root, client) := client.resolve transport asked design.root
  (report, { design with root }, client)

end Handoff.Service
