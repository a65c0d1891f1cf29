import UnitScan.Main
import UnitScan.TokenStream
import UnitScan.Proofs.RenderingRoundTrip
import UnitScan.Proofs.TextDivision
import UnitScan.Proofs.LongestMatch
import UnitScan.Proofs.TokenPositions
import UnitScan.Proofs.StreamRefinement
import UnitScan.Proofs.Boundaries
import UnitScan.Proofs.LineLocality
import UnitScan.Proofs.TokenImage
import UnitScan.Proofs.RenderedText
import UnitScan.Proofs.Utf8RoundTrip
import UnitScan.Proofs.CommandOutput
import UnitScan.Proofs.CollectedDiagnostics
import UnitScan.Proofs.DiagnosticCarets
import UnitScan.Proofs.ScanProgress
import UnitScan.Proofs.ErrorLimit
import UnitScan.Proofs.EscapeCodes
import UnitScan.Proofs.ScanOutcomes
import UnitScan.Proofs.ExitCodes
import UnitScan.Proofs.StrictScans
import UnitScan.Proofs.TestOrder
import UnitScan.Proofs.CharacterRoles
import UnitScan.Proofs.ErrorReports
import UnitScan.Proofs.Lookahead
import UnitScan.Proofs.OpenComments
import UnitScan.Proofs.CommentErasure
import UnitScan.Proofs.LayoutNormalisation
import UnitScan.Proofs.CarriageReturns
import UnitScan.Proofs.StrayCharacters
import UnitScan.Proofs.RenderedErrors
import UnitScan.Proofs.QuotedText
import UnitScan.Proofs.TokenListing
import UnitScan.Proofs.CollectorRuns
import UnitScan.Proofs.ScanRecords
import UnitScan.Proofs.StreamSegments
