import Gyanam.AlertQueue
import Gyanam.AlertStore
import Gyanam.Balance
import Gyanam.BaselinePull
import Gyanam.BaselineRuns
import Gyanam.Connections
import Gyanam.Coverage
import Gyanam.BlobExtraction
import Gyanam.ReportFailures
import Gyanam.ReportPriority
import Gyanam.Handoff
import Gyanam.Lib.DoubleOrder
import Gyanam.LogBaseline
import Gyanam.PollOutcome
import Gyanam.Realisation
import Gyanam.Slots
import Gyanam.Timestamps
import Gyanam.TargetNames
import Gyanam.Exporter
import Gyanam.ExporterAccount
import Gyanam.Lib.PerKey
import Gyanam.SubscriptionStanding
import Gyanam.SubscriptionRuns
import Gyanam.CperQueue
import Gyanam.CperRuns
import Gyanam.CperRetries
import Gyanam.LogSteps
import Gyanam.PolicyRearm
import Gyanam.LogPruning
import Gyanam.PollStatusRuns
import Gyanam.MetricsExport
import Gyanam.ExportMerging
import Gyanam.ExportRetries
import Gyanam.TargetsRoundTrip
import Gyanam.Bisection
import Gyanam.BufferOrder
import Gyanam.CollectionPages
import Gyanam.ResultHandover
import Gyanam.EventIngestion
import Gyanam.SubscriptionStatus
import Gyanam.Lib.Precedence
import Gyanam.Placement
import Gyanam.PlacementStore
import Gyanam.Lib.Grouping
import Gyanam.RackSlots
import Gyanam.DataHall
import Gyanam.DataHallCoverage
import Gyanam.Lib.Lines
import Gyanam.SseFraming
import Gyanam.AlertReconnect
import Gyanam.Lib.SlidingWindow
import Gyanam.RateLimiter
import Gyanam.Lib.Cycles
import Gyanam.HeatmapCache
import Gyanam.RackGeometry
import Gyanam.PlacementHeights
import Gyanam.DiagnosticTasks
import Gyanam.AmdSections
import Gyanam.Lib.Notes
import Gyanam.CperEnrichment
import Gyanam.Lib.IpAddress
import Gyanam.HostSpellings
import Gyanam.ImportIsolation
import Gyanam.DiscoveryWalk
import Gyanam.ArchiveNames
import Gyanam.ArchiveExtraction
import Gyanam.ArchiveFormats
import Gyanam.ArchiveUnpacking
import Gyanam.Lib.Dialogue
import Gyanam.WebhookSubscriber
import Gyanam.WebhookRequests
import Gyanam.EventService
import Gyanam.WebhookProtocol
import Gyanam.WebhookReconcile
import Gyanam.PollSchedule
import Gyanam.Lib.Encoding
import Gyanam.Lib.SignedToken
import Gyanam.Sessions
import Gyanam.SessionTokens
import Gyanam.SessionRuns
import Gyanam.Lib.Paging
import Gyanam.AlertPages
import Gyanam.AlertListing
import Gyanam.ExportJob
import Gyanam.ExportRuns
import Gyanam.ExportRetries
