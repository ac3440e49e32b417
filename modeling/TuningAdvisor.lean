import TuningAdvisor.Admission.Ingestion
import TuningAdvisor.Admission.Registration
import TuningAdvisor.Admission.Rejection
import TuningAdvisor.CommandLine.Arguments
import TuningAdvisor.CommandLine.KeyPath
import TuningAdvisor.CommandLine.Output
import TuningAdvisor.CommandLine.Program
import TuningAdvisor.CommandLine.Settings
import TuningAdvisor.Config
import TuningAdvisor.Document.Basic
import TuningAdvisor.Document.Cursor
import TuningAdvisor.Document.Decoder
import TuningAdvisor.Document.Located
import TuningAdvisor.Document.Numeral
import TuningAdvisor.Document.Printer
import TuningAdvisor.Document.Reader
import TuningAdvisor.Document.Scalar
import TuningAdvisor.Document.Shape
import TuningAdvisor.Document.Skipping
import TuningAdvisor.Engine
import TuningAdvisor.Engine.Batch
import TuningAdvisor.Engine.Document
import TuningAdvisor.Experiment
import TuningAdvisor.Experiment.Document
import TuningAdvisor.Experiment.Merge
import TuningAdvisor.Experiment.Store
import TuningAdvisor.FileTree
import TuningAdvisor.Interval
import TuningAdvisor.Interval.Document
import TuningAdvisor.Layer
import TuningAdvisor.Layer.Builtin
import TuningAdvisor.Layer.Document
import TuningAdvisor.Main
import TuningAdvisor.Number.Arithmetic
import TuningAdvisor.Number.Binary64
import TuningAdvisor.Number.Decimal
import TuningAdvisor.Number.Notation
import TuningAdvisor.Number.Range
import TuningAdvisor.Number.Shortest
import TuningAdvisor.Profile
import TuningAdvisor.Profile.Builtin
import TuningAdvisor.Profile.Document
import TuningAdvisor.Profile.Store
import TuningAdvisor.Proofs.Advice
import TuningAdvisor.Proofs.Annotations
import TuningAdvisor.Proofs.Arrival
import TuningAdvisor.Proofs.Batches
import TuningAdvisor.Proofs.BestTrial
import TuningAdvisor.Proofs.Calls
import TuningAdvisor.Proofs.ContainerLimits
import TuningAdvisor.Proofs.Counting
import TuningAdvisor.Proofs.Cycles
import TuningAdvisor.Proofs.DecimalFloats
import TuningAdvisor.Proofs.Declarations
import TuningAdvisor.Proofs.Decoding
import TuningAdvisor.Proofs.Detection
import TuningAdvisor.Proofs.Directories
import TuningAdvisor.Proofs.ExperimentDocuments
import TuningAdvisor.Proofs.FailedMerges
import TuningAdvisor.Proofs.Filing
import TuningAdvisor.Proofs.FinalValues
import TuningAdvisor.Proofs.Fixpoint
import TuningAdvisor.Proofs.FloatArithmetic
import TuningAdvisor.Proofs.FloatBits
import TuningAdvisor.Proofs.FloatBounds
import TuningAdvisor.Proofs.Frozen
import TuningAdvisor.Proofs.GivenLimits
import TuningAdvisor.Proofs.GivenValues
import TuningAdvisor.Proofs.HeapMonotonicity
import TuningAdvisor.Proofs.HeapPercentage
import TuningAdvisor.Proofs.History
import TuningAdvisor.Proofs.Independence
import TuningAdvisor.Proofs.Ingestion
import TuningAdvisor.Proofs.LayerDocuments
import TuningAdvisor.Proofs.Listings
import TuningAdvisor.Proofs.Lists
import TuningAdvisor.Proofs.Lookups
import TuningAdvisor.Proofs.Merge
import TuningAdvisor.Proofs.MergedRecords
import TuningAdvisor.Proofs.Numerals
import TuningAdvisor.Proofs.ObjectCheck
import TuningAdvisor.Proofs.Order
import TuningAdvisor.Proofs.Placement
import TuningAdvisor.Proofs.Prerequisites
import TuningAdvisor.Proofs.ProfileResolution
import TuningAdvisor.Proofs.ProfileTables
import TuningAdvisor.Proofs.QuantityGrammar
import TuningAdvisor.Proofs.ReadBack
import TuningAdvisor.Proofs.RepeatedRequests
import TuningAdvisor.Proofs.RequestOrder
import TuningAdvisor.Proofs.Resolution
import TuningAdvisor.Proofs.RoundTrip
import TuningAdvisor.Proofs.Rounding
import TuningAdvisor.Proofs.Runs
import TuningAdvisor.Proofs.ServerFlag
import TuningAdvisor.Proofs.ShortestDigits
import TuningAdvisor.Proofs.SizedDocuments
import TuningAdvisor.Proofs.SortedMap
import TuningAdvisor.Proofs.Spans
import TuningAdvisor.Proofs.Statuses
import TuningAdvisor.Proofs.StoreGauge
import TuningAdvisor.Proofs.StoredMetrics
import TuningAdvisor.Proofs.TermWindows
import TuningAdvisor.Proofs.Texts
import TuningAdvisor.Proofs.Tolerance
import TuningAdvisor.Proofs.Windows
import TuningAdvisor.Quantity
import TuningAdvisor.Recommendation.Collector
import TuningAdvisor.Recommendation.Env
import TuningAdvisor.Recommendation.Generator
import TuningAdvisor.Recommendation.Handler
import TuningAdvisor.Recommendation.HeapSizing
import TuningAdvisor.Recommendation.JavaLabels
import TuningAdvisor.Recommendation.ThreadPool
import TuningAdvisor.Resolution.Document
import TuningAdvisor.Resolution.Notification
import TuningAdvisor.Resolution.Order
import TuningAdvisor.Resolution.Report
import TuningAdvisor.SortedMap
import TuningAdvisor.Telemetry.Counters
import TuningAdvisor.Telemetry.Event
import TuningAdvisor.Text.Blank
import TuningAdvisor.Text.CodePoints
import TuningAdvisor.Text.Emoji
import TuningAdvisor.Text.Extending
import TuningAdvisor.Text.LetterCase
import TuningAdvisor.Text.Quoted
import TuningAdvisor.Text.Table
import TuningAdvisor.Text.Unprintable
import TuningAdvisor.Text.Width
import TuningAdvisor.Time.Calendar
import TuningAdvisor.Time.Instant
import TuningAdvisor.Time.Timestamp
import TuningAdvisor.Trial.Document
import TuningAdvisor.Trial.Summary
import TuningAdvisor.Tunable
