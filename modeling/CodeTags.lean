import CodeTags.JsonLines.Reader
import CodeTags.Launch
import CodeTags.Main
import CodeTags.Proofs.Text.LineFeed
import CodeTags.Proofs.Trace
import CodeTags.ReplyLine.Pieces
import CodeTags.Proofs.Session
import CodeTags.Proofs.Bridge
import CodeTags.Proofs.LineIndex
import CodeTags.Proofs.ReferenceScan
import CodeTags.Proofs.ReplyLine
import CodeTags.Proofs.Framing
import CodeTags.Proofs.Batch
import CodeTags.Proofs.Merge
import CodeTags.Proofs.TokenStream
import CodeTags.Proofs.LineCursor
import CodeTags.Proofs.ScanSource
import CodeTags.Proofs.ReplyLine.Report
import CodeTags.Proofs.ReplyLine.FirstReport
import CodeTags.Proofs.Session.Failure
import CodeTags.Proofs.TagSet.Sources
import CodeTags.Proofs.Command
import CodeTags.Proofs.Continuation
import CodeTags.Proofs.JsonLines
import CodeTags.Proofs.Resolution
import CodeTags.Proofs.LineEnding
import CodeTags.Proofs.ReplyLine.ReadBack
import CodeTags.Proofs.TagSet.History
import CodeTags.Proofs.ScanTokens
import CodeTags.Proofs.TokenStream.Walk
import CodeTags.Proofs.ReplyLine.OtherPath
import CodeTags.Proofs.ScanTokens.LineEnding
import CodeTags.Proofs.ScanTokens.Stripping
import CodeTags.Proofs.Resolution.LastPart
import CodeTags.Proofs.Resolution.Spelling
import CodeTags.Proofs.LineDecoding
import CodeTags.Proofs.LineIndex.Range
import CodeTags.Proofs.Symbol
import CodeTags.Proofs.LineCursor.Answers
import CodeTags.Proofs.TokenStream.Order
