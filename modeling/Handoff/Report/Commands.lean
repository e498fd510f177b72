import Handoff.Binary64.Text
import Handoff.Manifest.Basic
import Handoff.Report.Line
import Handoff.Site.Fetch
import Handoff.Site.Generation

/-!
The reports on a design that was fetched, on a manifest that can be used, and on a site that was made.
-/
namespace Handoff.Report

def assetWarnings (report : Service.AssetReport) : List Line :=
  match report.failure with
  | some error => [.warning ("asset export failed: " ++ error.message)]
  | none => report.missing.map fun id => .warning ("no asset rendered for node " ++ id)

def assetSummary : Option Service.AssetReport → String
  | some report =>
    toString report.resolved.length ++ " of " ++ toString report.requested ++ " resolved"
  | none => "skipped"

/-- What was fetched, and the path of the file that it was kept in. -/
def fetch (fetched : Site.Fetched) (path : Path) : List Line :=
  let source := fetched.design.source
  fetched.assets.toList.flatMap assetWarnings
    ++ [.plain (source.fileName ++ " (modified " ++ source.lastModified ++ ")"),
      .value "nodes" (toString fetched.design.root.size),
      .value "components" (toString fetched.design.components.entries.length),
      .value "assets" (assetSummary fetched.assets),
      .blank,
      .plain ("Wrote " ++ path.text)]

def sectionNames (manifest : Manifest) : String :=
  if manifest.sections.isEmpty then "one per top-level frame"
  else String.intercalate ", " (manifest.sections.map (·.name))

def assetSettings (assets : Manifest.Assets) : String :=
  if assets.enabled then Named.name assets.format ++ " at " ++ assets.scale.plain ++ "x"
  else "disabled"

def targetNames (targets : List Target) : String := String.intercalate ", " (targets.map Named.name)

/-- What a manifest says, given the path of its file. -/
def check (manifest : Manifest) (path : Path) : List Line :=
  [.plain ("✓ " ++ path.text ++ " is valid"),
   .blank,
   .value "source" (manifest.source.fileKey ++ " (node " ++ manifest.source.nodeId ++ ")"),
   .value "targets" (targetNames manifest.output.targets),
   .value "page" manifest.output.pagePath.text,
   .value "sections" (sectionNames manifest),
   .value "tokens" (toString manifest.tokens.length),
   .value "assets" (assetSettings manifest.assets)]

def generationSummary (made : Site.Generation) : List Line :=
  [.plain (made.page ++ " (" ++ targetNames made.targets ++ ")"), .blank,
    .heading ("Sections (" ++ toString made.sections.length ++ ")")]
    ++ made.sections.map fun (name, activation) =>
      .item (name ++ " (" ++ Named.name activation ++ ")")

def writtenFile (file : Path × WriteStatus) : Line :=
  match file.2 with
  | .written => .added file.1.text
  | .unchanged => .kept file.1.text
  | .skipped => .kept (file.1.text ++ " (exists, kept)")

def shownFile (file : Path × String) : List Line := [.divider file.1.text, .plain file.2]

def generation (made : Site.Generation) : List Line :=
  match made.outcome with
  | .written files =>
    (if made.sections.isEmpty then
        [.warning "no sections found; the page renders the design statically"]
      else [])
      ++ generationSummary made ++ [.blank, .heading "Files"] ++ files.map writtenFile
  | .shown files =>
    files.flatMap shownFile ++ [.divider "Summary"] ++ generationSummary made
      ++ [.blank, .plain (toString files.length ++ " files would be generated")]

end Handoff.Report
