import CodeAtlas.Analysis
import CodeAtlas.Chat.Index
import CodeAtlas.Chat.Prompt
import CodeAtlas.Chat.Service
import CodeAtlas.Checkout.Batch
import CodeAtlas.Checkout.Poll
import CodeAtlas.Checkout.Service
import CodeAtlas.Checkout.Site
import CodeAtlas.Database
import CodeAtlas.Digest.Sha256
import CodeAtlas.Fault
import CodeAtlas.Graph.Context
import CodeAtlas.Graph.Ingest
import CodeAtlas.Graph.Intake
import CodeAtlas.Graph.Schema
import CodeAtlas.Http
import CodeAtlas.Http.Address
import CodeAtlas.Http.IpAddress
import CodeAtlas.Http.Target
import CodeAtlas.Json.Reader
import CodeAtlas.Json.Token
import CodeAtlas.Json.Writer
import CodeAtlas.Language
import CodeAtlas.Number.Binary64
import CodeAtlas.Number.Shortest
import CodeAtlas.Outline
import CodeAtlas.Outline.Reply
import CodeAtlas.Outline.Request
import CodeAtlas.Outline.Rule
import CodeAtlas.Outline.Scan
import CodeAtlas.Pattern
import CodeAtlas.Pattern.CharClass
import CodeAtlas.Proofs.AnswerIndependence
import CodeAtlas.Proofs.Assignments
import CodeAtlas.Proofs.BatchAccounts
import CodeAtlas.Proofs.BoardSteps
import CodeAtlas.Proofs.BrokenSearch
import CodeAtlas.Proofs.CallGraph
import CodeAtlas.Proofs.CharLaws
import CodeAtlas.Proofs.ChatVisits
import CodeAtlas.Proofs.CheckedConnection
import CodeAtlas.Proofs.CloneSessions
import CodeAtlas.Proofs.ClosedOutlines
import CodeAtlas.Proofs.CodeWindows
import CodeAtlas.Proofs.DeclaredLines
import CodeAtlas.Proofs.DetectedLanguage
import CodeAtlas.Proofs.EmbeddedContents
import CodeAtlas.Proofs.EmbeddingIndependence
import CodeAtlas.Proofs.EntityIdentity
import CodeAtlas.Proofs.EntityIds
import CodeAtlas.Proofs.EventOutcome
import CodeAtlas.Proofs.ExceptLaws
import CodeAtlas.Proofs.FaithfulReplies
import CodeAtlas.Proofs.FieldsLaws
import CodeAtlas.Proofs.HitPlaces
import CodeAtlas.Proofs.IndexRenewal
import CodeAtlas.Proofs.IngestOrigin
import CodeAtlas.Proofs.IngestTrace
import CodeAtlas.Proofs.KeptConnection
import CodeAtlas.Proofs.LegibleOutlines
import CodeAtlas.Proofs.LineSpans
import CodeAtlas.Proofs.ListedFiles
import CodeAtlas.Proofs.LookupLaws
import CodeAtlas.Proofs.LostMetadata
import CodeAtlas.Proofs.NumeralLaws
import CodeAtlas.Proofs.OutlineOrigin
import CodeAtlas.Proofs.OutlineShape
import CodeAtlas.Proofs.PathReach
import CodeAtlas.Proofs.PatternEnds
import CodeAtlas.Proofs.PollCounts
import CodeAtlas.Proofs.PollEffects
import CodeAtlas.Proofs.PollRuns
import CodeAtlas.Proofs.QueryParameters
import CodeAtlas.Proofs.QueryText
import CodeAtlas.Proofs.ReadBack
import CodeAtlas.Proofs.ReadLegible
import CodeAtlas.Proofs.ReplyParts
import CodeAtlas.Proofs.ReplyProse
import CodeAtlas.Proofs.ResultHandOff
import CodeAtlas.Proofs.ResultNames
import CodeAtlas.Proofs.SampleWindows
import CodeAtlas.Proofs.SearchPlan
import CodeAtlas.Proofs.SearchQueries
import CodeAtlas.Proofs.SingleConnection
import CodeAtlas.Proofs.SourceReading
import CodeAtlas.Proofs.SplitLaws
import CodeAtlas.Proofs.StallWatch
import CodeAtlas.Proofs.StrayFolders
import CodeAtlas.Proofs.TreeListing
import CodeAtlas.Proofs.UploadReach
import CodeAtlas.Proofs.Utf8Laws
import CodeAtlas.Proofs.ValueParts
import CodeAtlas.Proofs.VisitTurns
import CodeAtlas.Proofs.WaitFrame
import CodeAtlas.Proofs.WorkAlike
import CodeAtlas.Proofs.WorkContract
import CodeAtlas.Proofs.WorkRun
import CodeAtlas.Proofs.WrittenTokens
import CodeAtlas.Resources
import CodeAtlas.Startup
import CodeAtlas.Text
import CodeAtlas.Text.Case
import CodeAtlas.Text.CaseTable
import CodeAtlas.Text.Codec
import CodeAtlas.Text.Cut
import CodeAtlas.Text.Encoding
import CodeAtlas.Text.Numeral
import CodeAtlas.Text.Printable
import CodeAtlas.Text.Utf8
import CodeAtlas.Text.WordChar
import CodeAtlas.Tree
import CodeAtlas.Value
import CodeAtlas.Value.Access
import CodeAtlas.Value.Display
import CodeAtlas.Work
