import DraftPool.Text.Ranges
import DraftPool.Text.WhiteSpace
import DraftPool.Text.CaseTable
import DraftPool.Text.Lower
import DraftPool.Text.PrintTable
import DraftPool.Text.Quoted
import DraftPool.Text.Decimal
import DraftPool.Number.Binary64
import DraftPool.Number.Wrapping
import DraftPool.Json.Value
import DraftPool.Json.Reader
import DraftPool.Json.Writer
import DraftPool.Sport
import DraftPool.Category
import DraftPool.Roster.Rows
import DraftPool.Score.Board
import DraftPool.Score.Total
import DraftPool.Search.Rank
import DraftPool.Time.Instant
import DraftPool.Time.Reset
import DraftPool.Fetch.Cache
import DraftPool.Roster.Diff
import DraftPool.Text.Utf8
import DraftPool.Web.Form
import DraftPool.Web.Punycode
import DraftPool.Text.CombiningClassTable
import DraftPool.Text.DecompositionTable
import DraftPool.Text.Normalization
import DraftPool.Text.BidiTable
import DraftPool.Text.JoiningTable
import DraftPool.Text.MarkTable
import DraftPool.Text.UnassignedTable
import DraftPool.Text.Character
import DraftPool.Text.IdnaTable
import DraftPool.Web.Idna
import DraftPool.Web.Percent
import DraftPool.Web.Host
import DraftPool.Web.Url
import DraftPool.Fetch.Net
import DraftPool.Json.Decode
import DraftPool.Provider.Mlb
import DraftPool.Provider.Nfl
import DraftPool.Provider.Sources
import DraftPool.Score.Engine
import DraftPool.Store.Tables
import DraftPool.Store.Write
import DraftPool.Store.Location
import DraftPool.Roster.Save
import DraftPool.Score.Codec
import DraftPool.Pool.Stats
import DraftPool.Pool.Session
import DraftPool.Json.Typed
import DraftPool.Roster.Codec
import DraftPool.Http.Api
import DraftPool.Toml.Value
import DraftPool.Toml.Reader
import DraftPool.Config
import DraftPool.Text.Similarity
import DraftPool.Cli.Spec
import DraftPool.Cli.Args
import DraftPool.Cli.Report
import DraftPool.Cli.Run
import DraftPool.Main
import DraftPool.Proofs.Store.Valid
import DraftPool.Proofs.Roster.Transaction
import DraftPool.Proofs.Roster.Years
import DraftPool.Proofs.Pool.Refresh
import DraftPool.Proofs.Fetch.Coherence
import DraftPool.Proofs.Roster.Frame
import DraftPool.Proofs.Pool.CachedScores
import DraftPool.Proofs.Roster.Friends
import DraftPool.Proofs.Roster.Players
import DraftPool.Proofs.Score.Board
import DraftPool.Proofs.Store.Integrity
import DraftPool.Proofs.Score.Completion
import DraftPool.Proofs.Fetch.Ring
import DraftPool.Proofs.Score.Faults
import DraftPool.Proofs.Pool.Failures
import DraftPool.Proofs.Score.Total
import DraftPool.Proofs.Roster.Diff
import DraftPool.Proofs.Score.Join
import DraftPool.Proofs.Time.Reset
import DraftPool.Proofs.Registry
import DraftPool.Proofs.Text.ByteOrder
import DraftPool.Proofs.Search.Ranking
import DraftPool.Proofs.Json.ReadBack
import DraftPool.Proofs.Score.Codec
import DraftPool.Proofs.Store.StatRows
import DraftPool.Proofs.Text.Decimal
import DraftPool.Proofs.Provider.Schedule
import DraftPool.Proofs.Provider.Touchdowns
