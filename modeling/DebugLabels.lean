import DebugLabels.Main
import DebugLabels.Proofs.Call
import DebugLabels.Proofs.History
import DebugLabels.Proofs.Links
import DebugLabels.Proofs.Listed
import DebugLabels.Proofs.Text
import DebugLabels.Proofs.Pieces
import DebugLabels.Proofs.WrittenNumber
import DebugLabels.Proofs.Reading
import DebugLabels.Proofs.WrittenText
import DebugLabels.Proofs.LineNumbers
import DebugLabels.Proofs.RecordOrder
import DebugLabels.Proofs.Failures
import DebugLabels.Proofs.BaseOffset
import DebugLabels.Proofs.FileContents
import DebugLabels.Proofs.FileConversion
import DebugLabels.Proofs.Command
import DebugLabels.Proofs.Outputs
import DebugLabels.Proofs.Growth
import DebugLabels.Proofs.UsedFields
import DebugLabels.Proofs.LineFormat
import DebugLabels.Proofs.Renumbering
import DebugLabels.Proofs.RenumberedListing
import DebugLabels.Proofs.LineEnds
import DebugLabels.Proofs.LabelFile
import DebugLabels.Proofs.BrokenLinks
import DebugLabels.Proofs.FirstFailure
import DebugLabels.Proofs.JoinedFields
import DebugLabels.Proofs.LabelReading
import DebugLabels.Proofs.Options
import DebugLabels.Proofs.BadLines
import DebugLabels.Proofs.ReadingInParts
import DebugLabels.Proofs.Spellings
import DebugLabels.Proofs.SpanLists
import DebugLabels.Proofs.Accounting
import DebugLabels.Proofs.SettingTexts
import DebugLabels.Proofs.Duplicates
import DebugLabels.Proofs.ShownNumbers
import DebugLabels.Proofs.Verbosity
import DebugLabels.Proofs.Destinations
