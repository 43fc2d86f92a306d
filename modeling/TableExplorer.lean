import TableExplorer.Api.App
import TableExplorer.Api.Documents
import TableExplorer.Api.Endpoints
import TableExplorer.Api.Framework
import TableExplorer.Api.Http
import TableExplorer.Api.Route
import TableExplorer.Api.Url
import TableExplorer.Calendar.Basic
import TableExplorer.Calendar.Reader
import TableExplorer.ConnectionOptions
import TableExplorer.DataSource.Basic
import TableExplorer.DataSource.Scripted
import TableExplorer.Dict
import TableExplorer.Double.Basic
import TableExplorer.Double.Decimal
import TableExplorer.Double.Digits
import TableExplorer.Double.Text
import TableExplorer.Engine
import TableExplorer.ExportFile
import TableExplorer.Json.Reader
import TableExplorer.Json.Writer
import TableExplorer.LookupCache
import TableExplorer.Operator
import TableExplorer.QueryState.Basic
import TableExplorer.QueryState.Complaint
import TableExplorer.QueryState.Integer
import TableExplorer.QueryState.Reader
import TableExplorer.Registry.Groups
import TableExplorer.Registry.Joins
import TableExplorer.Registry.Lookups
import TableExplorer.Request.Compile
import TableExplorer.Request.Basic
import TableExplorer.RequestLog.Table
import TableExplorer.Resolve
import TableExplorer.Sheet.Column
import TableExplorer.Sheet.Csv
import TableExplorer.Sheet.Workbook
import TableExplorer.Store.Affinity
import TableExplorer.Store.Cell
import TableExplorer.Store.ColumnType
import TableExplorer.Store.Database
import TableExplorer.Store.Plan
import TableExplorer.Store.Reflection
import TableExplorer.Store.Run
import TableExplorer.Store.Warehouse
import TableExplorer.Sweep
import TableExplorer.Text.Characters
import TableExplorer.Text.Printable
import TableExplorer.Text.Quoted
import TableExplorer.Text.Split
import TableExplorer.Text.Utf
import TableExplorer.Value.Basic
import TableExplorer.Value.Datum
import TableExplorer.Proofs.Exchanges
import TableExplorer.Proofs.Sweep.Trace
import TableExplorer.Proofs.Sweep.Exactness
import TableExplorer.Proofs.Dict
import TableExplorer.Proofs.Engine.Tiling
import TableExplorer.Proofs.Except
import TableExplorer.Proofs.Lists
import TableExplorer.Proofs.Store.Join
import TableExplorer.Proofs.Store.Place
import TableExplorer.Proofs.Store.Plan
import TableExplorer.Proofs.Store.Query
import TableExplorer.Proofs.Sweep.Protocol
import TableExplorer.Proofs.Engine.Classification
import TableExplorer.Proofs.Engine.Alike
import TableExplorer.Proofs.Store.Conceal
import TableExplorer.Proofs.MandatoryFilters
import TableExplorer.Proofs.Store.Faults
import TableExplorer.Proofs.Store.Windows
import TableExplorer.Proofs.Sweep.Positions
import TableExplorer.Proofs.Engine.Oracle
import TableExplorer.Proofs.FailedQueries
import TableExplorer.Proofs.Resolve.Endless
import TableExplorer.Proofs.Resolve.Interleaving
import TableExplorer.Proofs.Resolve.Clearing
import TableExplorer.Proofs.Engine.ChoiceLists
import TableExplorer.Proofs.LookupCache.Lifetime
import TableExplorer.Proofs.Sheet.Columns
import TableExplorer.Proofs.Sheet.Integers
import TableExplorer.Proofs.Api.Complaints
import TableExplorer.Proofs.Api.InternalErrors
import TableExplorer.Proofs.Api.Logging
import TableExplorer.Proofs.Sheet.Texts
import TableExplorer.Proofs.Resolve.Traffic
import TableExplorer.Proofs.Api.Reset
import TableExplorer.Proofs.QueryState.Normal
import TableExplorer.Proofs.Store.Rows
import TableExplorer.Proofs.Sweep.Bound
import TableExplorer.Proofs.LookupCache.Merging
import TableExplorer.Proofs.LookupCache.Options
import TableExplorer.Proofs.Store.Mentions
import TableExplorer.Proofs.Store.Readiness
import TableExplorer.Proofs.Store.Binding
import TableExplorer.Proofs.Store.Refusals
import TableExplorer.Proofs.Resolve.Frame
import TableExplorer.Proofs.Request.Alike
import TableExplorer.Proofs.Store.Filters
import TableExplorer.Proofs.Store.Patterns
import TableExplorer.Proofs.Text.Utf
import TableExplorer.Proofs.Sheet.FlatRows
import TableExplorer.Proofs.Api.ListingRequests
import TableExplorer.Proofs.Api.LogPages
import TableExplorer.Proofs.Api.LogPaths
import TableExplorer.Proofs.Json.Grammar
import TableExplorer.Proofs.Json.Tokens
import TableExplorer.Proofs.Json.Reading
import TableExplorer.Proofs.RequestLog.ErrorText
import TableExplorer.Proofs.Text.InLists
import TableExplorer.Proofs.Registry.Groups
import TableExplorer.Proofs.Sweep.Retries
import TableExplorer.Proofs.Resolve.SharedKeys
