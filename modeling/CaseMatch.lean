import CaseMatch.Main
import CaseMatch.Matching.Step
import CaseMatch.Proofs.Case.FirstMatch
import CaseMatch.Proofs.Matching.Composition
import CaseMatch.Proofs.Matching.Discipline
import CaseMatch.Proofs.Matching.EntryOrder
import CaseMatch.Proofs.Matching.InnermostFrame
import CaseMatch.Proofs.Matching.Reference
import CaseMatch.Proofs.Matching.UnmentionedKeys
import CaseMatch.Proofs.Pattern.TailPlacement
import CaseMatch.Proofs.Surface.ErrorPlace
import CaseMatch.Proofs.Surface.IntegerReading
import CaseMatch.Proofs.Surface.LexSafety
import CaseMatch.Proofs.Surface.LiteralText
import CaseMatch.Proofs.Surface.ParserProgress
import CaseMatch.Proofs.Surface.PatternNames
import CaseMatch.Proofs.Surface.RoundTrip
import CaseMatch.Proofs.Surface.Separation
import CaseMatch.Proofs.Value.Extensionality
import CaseMatch.Proofs.Value.Insertion
import CaseMatch.Proofs.Value.NumberEquality
import CaseMatch.Proofs.Value.RangeMembership
import CaseMatch.Surface.Cursor
