import Proofread.Json.Printer
import Proofread.Proofs.Appended
import Proofread.Proofs.Dictionary.Composed
import Proofread.Proofs.Dictionary.Rows
import Proofread.Proofs.Dictionary.Written
import Proofread.Proofs.Document.Formula
import Proofread.Proofs.Document.LineOrder
import Proofread.Proofs.Document.Repeat
import Proofread.Proofs.Options.Alone
import Proofread.Proofs.Options.Normal
import Proofread.Proofs.Pattern.Occurrence
import Proofread.Proofs.Pattern.Verbatim
import Proofread.Proofs.Segment.Exempt
import Proofread.Proofs.Segment.Expression
import Proofread.Proofs.Segment.Figures
import Proofread.Proofs.Segment.Occurrence
import Proofread.Proofs.Segment.Separated
import Proofread.Proofs.Segment.Threshold
import Proofread.Proofs.Segment.Variable
import Proofread.Proofs.Segment.Verbatim
import Proofread.Proofs.Session.Handler
import Proofread.Proofs.Session.Setup
import Proofread.Proofs.Session.Traceless
import Proofread.Session
