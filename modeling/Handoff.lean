import Handoff.Document.Encoding
import Handoff.Main
import Handoff.Proofs.MarkupReader
import Handoff.Proofs.MarkupSpelling
import Handoff.Proofs.MarkupRoundTrip
import Handoff.Proofs.MarkupZones
import Handoff.Proofs.Trees
import Handoff.Proofs.OrderedMaps
import Handoff.Proofs.LoweredMarkup
import Handoff.Proofs.TemplateReading
import Handoff.Proofs.TargetAgreement
import Handoff.Proofs.DecimalRounding
import Handoff.Proofs.NumberText
import Handoff.Proofs.JsonText
import Handoff.Proofs.JsonValues
import Handoff.Proofs.JsonRoundTrip
import Handoff.Proofs.RecordFields
import Handoff.Proofs.StyleCodec
import Handoff.Proofs.LayoutCodec
import Handoff.Proofs.DesignCodec
import Handoff.Proofs.DesignStorage
import Handoff.Proofs.DecodingRoom
import Handoff.Proofs.DocumentPromises
import Handoff.Proofs.InterpretedLayers
import Handoff.Proofs.InterpretedDesigns
import Handoff.Proofs.NameCharacters
import Handoff.Proofs.PageSections
import Handoff.Proofs.RepeatedPruning
import Handoff.Proofs.SourceLines
import Handoff.Proofs.ModuleReading
import Handoff.Proofs.CollectedImports
import Handoff.Proofs.ImportLines
import Handoff.Proofs.ComponentModules
import Handoff.Proofs.PathResolution
import Handoff.Proofs.ClassCharacters
import Handoff.Proofs.ClassStems
import Handoff.Proofs.PageReading
import Handoff.Proofs.SiteFiles
import Handoff.Proofs.DeclaredNames
import Handoff.Proofs.ScriptLiterals
import Handoff.Proofs.EmbeddedTemplates
import Handoff.Proofs.PageScripts
import Handoff.Proofs.AttributeValues
import Handoff.Proofs.TemplateExpressions
import Handoff.Proofs.ImportOrder
import Handoff.Proofs.LeadingImports
import Handoff.Proofs.ImportedElements
import Handoff.Proofs.DocumentCache
import Handoff.Proofs.FetchOutcomes
import Handoff.Proofs.FetchInterleavings
import Handoff.Proofs.FetchHistory
import Handoff.Proofs.PictureBatches
import Handoff.Proofs.ExportedPictures
import Handoff.Proofs.ResolvedPictures
import Handoff.Proofs.PlannedPaths
import Handoff.Proofs.FileLocations
import Handoff.Proofs.FileWriting
import Handoff.Proofs.FileRuns
import Handoff.Proofs.RelativePaths
import Handoff.Proofs.SiteGeneration
import Handoff.Proofs.TreePlaces
import Handoff.Proofs.VisibleShapes
import Handoff.Proofs.LayerRanges
import Handoff.Proofs.SectionActivation
import Handoff.Proofs.StylesheetReading
import Handoff.Proofs.TokenColors
import Handoff.Proofs.ServiceAddresses
import Handoff.Proofs.UsableManifests
import Handoff.Proofs.TextExtents
import Handoff.Proofs.RejectedFields
import Handoff.Proofs.RepeatedDecoding
import Handoff.Proofs.DocumentCodec
import Handoff.Proofs.ExactPruning
import Handoff.Proofs.CardContents
import Handoff.Proofs.SectionNames
import Handoff.Proofs.LabelWords
import Handoff.Proofs.RepeatedNaming
import Handoff.Proofs.IdentifierNames
import Handoff.Proofs.SpelledLabels
import Handoff.Proofs.ListedClasses
import Handoff.Proofs.TextColors
import Handoff.Proofs.RoundedRoots
import Handoff.Proofs.NearestColors
import Handoff.Proofs.TokenLookup
import Handoff.Proofs.RoundedNumbers
import Handoff.Proofs.PaddingSides
import Handoff.Proofs.CornerClasses
import Handoff.Proofs.ShapeRoles
import Handoff.Proofs.PatchedLayers
import Handoff.Proofs.PrintedLines
import Handoff.Proofs.WrittenFiles
import Handoff.Proofs.ReadingOrder
