import Folio.Main
import Folio.Proofs.BareNames
import Folio.Proofs.Braces
import Folio.Proofs.CharacterClasses
import Folio.Proofs.JsonNumbers
import Folio.Proofs.JsonReading
import Folio.Proofs.JsonStrings
import Folio.Proofs.PlaceholderGrammar
import Folio.Proofs.Scanning
import Folio.Proofs.StrayReading
import Folio.Proofs.StrayText
import Folio.Proofs.TextCuts
import Folio.Proofs.TextLines
import Folio.Proofs.ValueStrings
import Folio.Proofs.NamedLists
import Folio.Proofs.ObjectTexts
import Folio.Proofs.FieldOptions
import Folio.Proofs.IntactValues
import Folio.Proofs.IncludeChains
import Folio.Proofs.FieldMaps
import Folio.Proofs.BlockLines
import Folio.Proofs.ContentRoundTrip
import Folio.Proofs.ContentNormalForm
import Folio.Proofs.ValidSyntax
import Folio.Proofs.CallEffects
import Folio.Proofs.CallLogs
import Folio.Proofs.CollectedAssets
import Folio.Proofs.FieldIndependence
import Folio.Proofs.RunSimulation
import Folio.Proofs.IncludeBounds
import Folio.Proofs.EntryPoints
import Folio.Proofs.BlockSplitting
import Folio.Proofs.RenderCommand
import Folio.Proofs.SegmentwiseRendering
import Folio.Proofs.IncludeStack
import Folio.Proofs.SegmentLocality
import Folio.Proofs.ContentReading
import Folio.Proofs.JsonPayloads
import Folio.Proofs.JsonGrammar
import Folio.Proofs.TolerantObjects
import Folio.Proofs.SafeNames
import Folio.Proofs.TagLists
import Folio.Proofs.HeadElements
import Folio.Proofs.Overlays
import Folio.Proofs.CanonicalPaths
import Folio.Proofs.AppliedPaths
import Folio.Proofs.ByteCuts
