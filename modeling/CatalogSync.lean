import CatalogSync.Number.Binary64
import CatalogSync.Number.Extended
import CatalogSync.Number.Shortest
import CatalogSync.Number.Text
import CatalogSync.Failure
import CatalogSync.Text.Ranges
import CatalogSync.Text.Printable
import CatalogSync.Text.Blank
import CatalogSync.Text.Literal
import CatalogSync.Text.Decode
import CatalogSync.Text.Digits
import CatalogSync.Number.Whole
import CatalogSync.Data.Value
import CatalogSync.Json.Reader
import CatalogSync.Json.Writer
import CatalogSync.Time.Calendar
import CatalogSync.Time.Stamp
import CatalogSync.Time.Iso
import CatalogSync.Filter.Predicate
import CatalogSync.Filter.Builder
import CatalogSync.Run.Status
import CatalogSync.Run.Item
import CatalogSync.Run.Replication
import CatalogSync.Catalog.Where
import CatalogSync.Api.Codec
import CatalogSync.Node.Wrap
import CatalogSync.Api.Basics
import CatalogSync.Text.Case
import CatalogSync.Config.Overrides
import CatalogSync.Config.Check
import CatalogSync.Config.Defaults
import CatalogSync.Config.Logging
import CatalogSync.Api.Settings
import CatalogSync.Disk.Path
import CatalogSync.Net.Url
import CatalogSync.Site.Adapter
import CatalogSync.Api.Sites
import CatalogSync.Sql.Datum
import CatalogSync.Sql.Numeric
import CatalogSync.Sql.Convert
import CatalogSync.Sql.Compare
import CatalogSync.Sql.Syntax
import CatalogSync.Sql.Lexer
import CatalogSync.Sql.Parser
import CatalogSync.Sql.Command
import CatalogSync.Sql.Schema
import CatalogSync.Sql.Registry
import CatalogSync.Sql.Resolve
import CatalogSync.Sql.Pattern
import CatalogSync.Sql.Scalar
import CatalogSync.Sql.Printf
import CatalogSync.Sql.Calendar
import CatalogSync.Sql.Library
import CatalogSync.Sql.JsonDoc
import CatalogSync.Sql.Eval
import CatalogSync.Sql.Define
import CatalogSync.Sql.Modify
import CatalogSync.Sql.Connection
import CatalogSync.Text.Base64
import CatalogSync.Node.Record
import CatalogSync.Sql.Bind
import CatalogSync.Disk.Files
import CatalogSync.Catalog.Node
import CatalogSync.Api.Records
import CatalogSync.Api.Catalog
import CatalogSync.Hash.Md5
import CatalogSync.Time.Epoch
import CatalogSync.Net.Http
import CatalogSync.Hdfs.Node
import CatalogSync.Api.Hdfs
import CatalogSync.Store.Items
import CatalogSync.Store.History
import CatalogSync.Report.Numeric
import CatalogSync.Report.TimeColumn
import CatalogSync.Report.History
import CatalogSync.Api.Report
import CatalogSync.Sync.Engine
import CatalogSync.Sync.Runner
import CatalogSync.Web.Routes
import CatalogSync.Sync.Live
import CatalogSync.Sim.Namenode
import CatalogSync.Sim.World
import CatalogSync.Sim.Sites
import CatalogSync.Api.Scenario
import CatalogSync.Text.Close
import CatalogSync.Cli.Command
import CatalogSync.Cli.Parse
import CatalogSync.Yaml.Scan
import CatalogSync.Yaml.Scalar
import CatalogSync.Yaml.Compose
import CatalogSync.Yaml.Load
import CatalogSync.Cli.Shell
import CatalogSync.Api.Cli
import CatalogSync.Api.Answer
import CatalogSync.Main
import CatalogSync.Proofs.Engine.Observed
import CatalogSync.Proofs.Engine.Stage
import CatalogSync.Proofs.Engine.Moves
import CatalogSync.Proofs.Engine.Push
import CatalogSync.Proofs.Engine.Passes
import CatalogSync.Proofs.Engine.Outcome
import CatalogSync.Proofs.Engine.Cancellation
import CatalogSync.Proofs.Engine.Watermark
import CatalogSync.Proofs.Filter.Selection
import CatalogSync.Proofs.Engine.PushLog
import CatalogSync.Proofs.Engine.Sweep
import CatalogSync.Proofs.Engine.Books
import CatalogSync.Proofs.Engine.PassLog
import CatalogSync.Proofs.Engine.Bookkeeping
import CatalogSync.Proofs.Engine.ItemTable
import CatalogSync.Proofs.Run.Lifecycle
import CatalogSync.Proofs.Engine.Listings
import CatalogSync.Proofs.Engine.Retries
import CatalogSync.Proofs.Hdfs.Pages
import CatalogSync.Proofs.Filter.Restriction
import CatalogSync.Proofs.Hdfs.Requested
import CatalogSync.Proofs.Engine.Frame
import CatalogSync.Proofs.Engine.Dispatch
import CatalogSync.Proofs.Engine.MetadataOnly
import CatalogSync.Proofs.Engine.Consults
import CatalogSync.Proofs.Hdfs.Listing
import CatalogSync.Proofs.Hdfs.Unreadable
import CatalogSync.Proofs.Filter.WellFormed
import CatalogSync.Proofs.Time.Calendar
import CatalogSync.Proofs.Time.CatalogText
import CatalogSync.Proofs.Data.Same
import CatalogSync.Proofs.Except
import CatalogSync.Proofs.Config.Replications
import CatalogSync.Proofs.Report.Figures
import CatalogSync.Proofs.Store.Frame
