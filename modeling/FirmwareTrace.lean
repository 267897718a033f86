import FirmwareTrace.Config.Document
import FirmwareTrace.Decode.Scan
import FirmwareTrace.Inspect
import FirmwareTrace.Main
import FirmwareTrace.Proofs.Cli.EmptyPath
import FirmwareTrace.Proofs.Cli.Merging
import FirmwareTrace.Proofs.Config.SourceText
import FirmwareTrace.Proofs.Decode.Bracketing
import FirmwareTrace.Proofs.Decode.Contiguity
import FirmwareTrace.Proofs.Decode.EncodedTrace
import FirmwareTrace.Proofs.Decode.Growth
import FirmwareTrace.Proofs.Decode.Overruns
import FirmwareTrace.Proofs.Decode.OwnLocation
import FirmwareTrace.Proofs.Decode.Reachability
import FirmwareTrace.Proofs.Decode.StreamFailure
import FirmwareTrace.Proofs.Decode.Supply
import FirmwareTrace.Proofs.Image.Extraction
import FirmwareTrace.Proofs.Image.RoundTrip
import FirmwareTrace.Proofs.Image.Truncation
import FirmwareTrace.Proofs.Inspect.Agreement
import FirmwareTrace.Proofs.Libraries.FirstDefinition
import FirmwareTrace.Proofs.Record.Layout
import FirmwareTrace.Proofs.Session.CanonicalDump
import FirmwareTrace.Proofs.Session.FailureClass
import FirmwareTrace.Proofs.Session.History
import FirmwareTrace.Proofs.SymbolCache.Fields
import FirmwareTrace.Proofs.SymbolCache.LineLayout
import FirmwareTrace.Proofs.SymbolCache.Lines
import FirmwareTrace.Proofs.SymbolCache.Merging
import FirmwareTrace.Proofs.SymbolCache.Quoting
import FirmwareTrace.Proofs.SymbolCache.Reading
import FirmwareTrace.Proofs.SymbolCache.RecordGrammar
import FirmwareTrace.Proofs.SymbolCache.RoundTrip
import FirmwareTrace.Proofs.Template.Boundaries
import FirmwareTrace.Proofs.Template.Integers
import FirmwareTrace.Proofs.Template.Size
import FirmwareTrace.Proofs.Template.Verbatim
import FirmwareTrace.Proofs.Text.Utf8
import FirmwareTrace.Proofs.Watch.LifeCycle
import FirmwareTrace.Proofs.Watch.Noticing
import FirmwareTrace.Session.Request
import FirmwareTrace.Watch.Poll
