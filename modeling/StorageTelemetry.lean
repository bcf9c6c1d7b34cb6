import StorageTelemetry.Cache.Basic
import StorageTelemetry.Cache.Meter
import StorageTelemetry.Cache.Series
import StorageTelemetry.Clock.Ticker
import StorageTelemetry.Clock.Timeline
import StorageTelemetry.Collection.BulkBatch
import StorageTelemetry.Collection.Collect
import StorageTelemetry.Collection.Enumerate
import StorageTelemetry.Collection.Retriever
import StorageTelemetry.Collection.Routine
import StorageTelemetry.Document.Conversion
import StorageTelemetry.Document.Mismatch
import StorageTelemetry.Document.Readable
import StorageTelemetry.Document.Record
import StorageTelemetry.Document.Tree
import StorageTelemetry.Double.Basic
import StorageTelemetry.Double.Decimal
import StorageTelemetry.Elector
import StorageTelemetry.Entity.Records
import StorageTelemetry.Exposition.Http
import StorageTelemetry.Exposition.Registry
import StorageTelemetry.Exposition.Text
import StorageTelemetry.Fault
import StorageTelemetry.Gateway.Calls
import StorageTelemetry.Gateway.Certificate
import StorageTelemetry.Gateway.Client
import StorageTelemetry.Gateway.Connection
import StorageTelemetry.Gateway.Entities
import StorageTelemetry.Gateway.Generation
import StorageTelemetry.Gateway.GenerationCell
import StorageTelemetry.Gateway.RestClient
import StorageTelemetry.Gateway.Simulated
import StorageTelemetry.Gateway.Statistics
import StorageTelemetry.Json.Fields
import StorageTelemetry.Json.Layer
import StorageTelemetry.Json.Lookup
import StorageTelemetry.Json.Reader
import StorageTelemetry.Json.Value
import StorageTelemetry.LabelSet
import StorageTelemetry.Log
import StorageTelemetry.Main
import StorageTelemetry.Normalization
import StorageTelemetry.Pipeline.Basic
import StorageTelemetry.Pipeline.Gather
import StorageTelemetry.Pipeline.Outcome
import StorageTelemetry.Pipeline.Schedule
import StorageTelemetry.Powers
import StorageTelemetry.Program.Arguments
import StorageTelemetry.Program.Live
import StorageTelemetry.Program.LogFilter
import StorageTelemetry.Program.Network
import StorageTelemetry.Program.Run
import StorageTelemetry.Proofs.Collection.Answers
import StorageTelemetry.Proofs.Collection.Batches
import StorageTelemetry.Proofs.Collection.BulkPasses
import StorageTelemetry.Proofs.Collection.BulkReading
import StorageTelemetry.Proofs.Collection.ClassEnumeration
import StorageTelemetry.Proofs.Collection.ClassFanOut
import StorageTelemetry.Proofs.Collection.Distinctness
import StorageTelemetry.Proofs.Collection.GenerationUse
import StorageTelemetry.Proofs.Collection.Isolation
import StorageTelemetry.Proofs.Collection.KeepAlive
import StorageTelemetry.Proofs.Collection.LegacyPasses
import StorageTelemetry.Proofs.Collection.LegacyReading
import StorageTelemetry.Proofs.Collection.MappedLabels
import StorageTelemetry.Proofs.Collection.Mappings
import StorageTelemetry.Proofs.Collection.PassOrder
import StorageTelemetry.Proofs.Collection.PassReports
import StorageTelemetry.Proofs.Collection.PassRuns
import StorageTelemetry.Proofs.Collection.PoolPlacement
import StorageTelemetry.Proofs.Collection.Regularity
import StorageTelemetry.Proofs.Collection.RejectedStatistics
import StorageTelemetry.Proofs.Collection.Reordering
import StorageTelemetry.Proofs.Collection.Routines
import StorageTelemetry.Proofs.Collection.ScheduleIndependence
import StorageTelemetry.Proofs.Collection.TracedPasses
import StorageTelemetry.Proofs.Collection.Visits
import StorageTelemetry.Proofs.Collection.VolumeEnumeration
import StorageTelemetry.Proofs.Double.DecimalText
import StorageTelemetry.Proofs.Double.RoundingIntervals
import StorageTelemetry.Proofs.Double.ShortestDecimals
import StorageTelemetry.Proofs.Exposition.MeterHistory
import StorageTelemetry.Proofs.Exposition.RenderedSeries
import StorageTelemetry.Proofs.Exposition.SeriesInstances
import StorageTelemetry.Proofs.Exposition.SeriesLife
import StorageTelemetry.Proofs.Exposition.TextReading
import StorageTelemetry.Proofs.Gateway.CallFates
import StorageTelemetry.Proofs.Gateway.GenerationHistory
import StorageTelemetry.Proofs.Gateway.OneGeneration
import StorageTelemetry.Proofs.Gateway.QueryText
import StorageTelemetry.Proofs.Gateway.RefusedRequests
import StorageTelemetry.Proofs.Gateway.Requests
import StorageTelemetry.Proofs.Gateway.VersionText
import StorageTelemetry.Proofs.Json.Acceptance
import StorageTelemetry.Proofs.Json.Grammar
import StorageTelemetry.Proofs.Json.Reading
import StorageTelemetry.Proofs.Json.RecordFields
import StorageTelemetry.Proofs.Json.Tokens
import StorageTelemetry.Proofs.Json.Writing
import StorageTelemetry.Proofs.Moves
import StorageTelemetry.Proofs.Pipeline.ClockRun
import StorageTelemetry.Proofs.Pipeline.Delivery
import StorageTelemetry.Proofs.Pipeline.Drain
import StorageTelemetry.Proofs.Pipeline.Gather
import StorageTelemetry.Proofs.Pipeline.ListScheduling
import StorageTelemetry.Proofs.Pipeline.Orders
import StorageTelemetry.Proofs.Pipeline.TimedGather
import StorageTelemetry.Proofs.Pipeline.Timeline
import StorageTelemetry.Proofs.Program.EnvironmentFiles
import StorageTelemetry.Proofs.Recording.Agreement
import StorageTelemetry.Proofs.Recording.Commutation
import StorageTelemetry.Proofs.Recording.EntityViews
import StorageTelemetry.Proofs.Recording.EventOwners
import StorageTelemetry.Proofs.Recording.Exposition
import StorageTelemetry.Proofs.Recording.LedgerView
import StorageTelemetry.Proofs.Recording.MeterView
import StorageTelemetry.Proofs.Recording.Observation
import StorageTelemetry.Proofs.Recording.OwnFigures
import StorageTelemetry.Proofs.Recording.Realization
import StorageTelemetry.Proofs.Recording.Refusals
import StorageTelemetry.Proofs.Recording.RegistrySeries
import StorageTelemetry.Proofs.Recording.RegistryView
import StorageTelemetry.Proofs.Recording.Relabelling
import StorageTelemetry.Proofs.Recording.Runs
import StorageTelemetry.Proofs.Recording.Trace
import StorageTelemetry.Proofs.Records
import StorageTelemetry.Proofs.Scheduler.LabelStability
import StorageTelemetry.Proofs.Scheduler.LoopRuns
import StorageTelemetry.Proofs.Scheduler.LoopSteps
import StorageTelemetry.Proofs.Scheduler.ShutdownRace
import StorageTelemetry.Proofs.Scheduler.TickEffects
import StorageTelemetry.Proofs.Scheduler.TickHistory
import StorageTelemetry.Proofs.Session.Authentication
import StorageTelemetry.Proofs.Session.BrokenLoops
import StorageTelemetry.Proofs.Session.Clocked
import StorageTelemetry.Proofs.Session.LoopPhases
import StorageTelemetry.Proofs.Session.LoopProgress
import StorageTelemetry.Proofs.Session.LoopTurns
import StorageTelemetry.Proofs.Session.Moments
import StorageTelemetry.Proofs.Session.Readers
import StorageTelemetry.Proofs.Session.RefreshTimes
import StorageTelemetry.Proofs.Session.Runs
import StorageTelemetry.Proofs.Session.SharedLock
import StorageTelemetry.Proofs.Session.Timetable
import StorageTelemetry.Proofs.Session.Withdrawal
import StorageTelemetry.Proofs.Settings.Documents
import StorageTelemetry.Proofs.Settings.LeafReading
import StorageTelemetry.Proofs.Settings.Leaves
import StorageTelemetry.Proofs.Settings.Overrides
import StorageTelemetry.Proofs.Settings.Places
import StorageTelemetry.Proofs.Settings.SectionDefaults
import StorageTelemetry.Proofs.Settings.Timers
import StorageTelemetry.Proofs.Statistics.CapacityFigures
import StorageTelemetry.Proofs.Statistics.Figures
import StorageTelemetry.Proofs.Statistics.PublishedFigures
import StorageTelemetry.Proofs.Statistics.Rounding
import StorageTelemetry.Proofs.Statistics.RoundingOrder
import StorageTelemetry.Proofs.Statistics.SparseRecords
import StorageTelemetry.Proofs.Statistics.WindowText
import StorageTelemetry.Proofs.Statistics.WiredSeries
import StorageTelemetry.Proofs.Statistics.Wiring
import StorageTelemetry.Proofs.Tables
import StorageTelemetry.Proofs.Text.ByteOrder
import StorageTelemetry.Proofs.Text.Splitting
import StorageTelemetry.Proofs.Tickers
import StorageTelemetry.Rest.Exchange
import StorageTelemetry.Rest.Location
import StorageTelemetry.Rest.Scripted
import StorageTelemetry.Rest.Status
import StorageTelemetry.Rest.Wire
import StorageTelemetry.Scheduler.Loop
import StorageTelemetry.Scheduler.Run
import StorageTelemetry.Scheduler.Tick
import StorageTelemetry.Session.RefreshLoop
import StorageTelemetry.Session.TokenManager
import StorageTelemetry.Session.World
import StorageTelemetry.Settings.Basic
import StorageTelemetry.Settings.Document
import StorageTelemetry.Settings.Environment
import StorageTelemetry.Settings.EnvironmentFile
import StorageTelemetry.Settings.Inventory
import StorageTelemetry.Settings.Load
import StorageTelemetry.Settings.Validation
import StorageTelemetry.SystemError
import StorageTelemetry.Table
import StorageTelemetry.Text.Alphanumeric
import StorageTelemetry.Text.Base64
import StorageTelemetry.Text.Blank
import StorageTelemetry.Text.Debug
import StorageTelemetry.Text.Digits
import StorageTelemetry.Text.Lowercase
import StorageTelemetry.Text.Quoted
import StorageTelemetry.Text.Ranges
import StorageTelemetry.Text.Utf8
import StorageTelemetry.Toml.Reader
import StorageTelemetry.Toml.Scalar
import StorageTelemetry.Toml.Section
import StorageTelemetry.Toml.Text
