import Landform.Main
import Landform.Fixture
import Landform.Proofs.Exchange
import Landform.Proofs.Linking
import Landform.Proofs.MapScript
import Landform.Proofs.ReadTrees
import Landform.Proofs.LastOverlay
import Landform.Proofs.Painting
import Landform.Proofs.Questions
import Landform.Proofs.Reports
import Landform.Proofs.NeutralOverlays
import Landform.Proofs.CheckedPatterns
import Landform.Proofs.CheckedRendering
import Landform.Proofs.AlgorithmCalls
import Landform.Proofs.Description
import Landform.Proofs.FailedFunctions
import Landform.Proofs.History
import Landform.Proofs.Lifecycle
import Landform.Proofs.Transcripts
import Landform.Proofs.Settings
import Landform.Proofs.Grammar
import Landform.Proofs.Layout
import Landform.Proofs.Writing
import Landform.Proofs.Indexes
import Landform.Proofs.Results
import Landform.Proofs.Unscripted
import Landform.Proofs.Entries
import Landform.Proofs.Constants
import Landform.Proofs.Anatomy
import Landform.Proofs.Phrases
import Landform.Proofs.Precedence
import Landform.Proofs.HostCalls
import Landform.Proofs.Places
import Landform.Proofs.FailedCommands
import Landform.Proofs.Interchange
import Landform.Proofs.PercentAreas
import Landform.Proofs.LocalPoints
import Landform.Proofs.Noise
import Landform.Proofs.Measures
import Landform.Proofs.Periods
import Landform.Proofs.MapSizes
import Landform.Proofs.Resolution
import Landform.Proofs.Grids
import Landform.Proofs.SoundTables
import Landform.Proofs.SpelledEntries
import Landform.Proofs.ShownColors
import Landform.Proofs.SheetRequests
import Landform.Proofs.Rectangles
import Landform.Proofs.CellLoops
import Landform.Proofs.Registrations
import Landform.Proofs.ScenarioChoices
import Landform.Proofs.DefinitionSections
import Landform.Proofs.DefinitionTexts
import Landform.Proofs.Engines
import Landform.Proofs.SharedJournals
