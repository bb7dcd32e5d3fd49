import LiveTrader.Audit.Reading
import LiveTrader.DryRun
import LiveTrader.Exchange.Scripted
import LiveTrader.Gmo.Scripted
import LiveTrader.Main
import LiveTrader.Rest.Scripted
import LiveTrader.WebSocket.Session
import LiveTrader.Proofs.CycleTrace
import LiveTrader.Proofs.Lifecycle
import LiveTrader.Proofs.Journal
import LiveTrader.Proofs.JournalRuns
import LiveTrader.Proofs.CycleCourses
import LiveTrader.Proofs.CycleRuns
import LiveTrader.Proofs.Guard
import LiveTrader.Proofs.OrderGate
import LiveTrader.Proofs.Submission
import LiveTrader.Proofs.LoopTrace
import LiveTrader.Proofs.Supervision
import LiveTrader.Proofs.Retry
import LiveTrader.Proofs.Calendar
import LiveTrader.Proofs.GatewayTrace
import LiveTrader.Proofs.Operations
import LiveTrader.Proofs.Payloads
import LiveTrader.Proofs.Requests
import LiveTrader.Proofs.OrderStates
import LiveTrader.Proofs.Containment
import LiveTrader.Proofs.StreamSupervision
import LiveTrader.Proofs.AuditTrail
import LiveTrader.Proofs.CycleReports
import LiveTrader.Proofs.Frames
import LiveTrader.Proofs.Subscription
import LiveTrader.Proofs.Telemetry
import LiveTrader.Proofs.Lines
import LiveTrader.Proofs.Rotation
import LiveTrader.Proofs.Lots
import LiveTrader.Proofs.Sizes
import LiveTrader.Proofs.StoredValues
import LiveTrader.Proofs.FrameOutcomes
import LiveTrader.Proofs.Upgrade
import LiveTrader.Proofs.Attribution
import LiveTrader.Proofs.Envelopes
import LiveTrader.Proofs.Placement
import LiveTrader.Proofs.JsonText
import LiveTrader.Proofs.OrderNames
import LiveTrader.Proofs.OrderTerms
import LiveTrader.Proofs.CandleSelection
import LiveTrader.Proofs.Redaction
import LiveTrader.Proofs.SignedMessages
import LiveTrader.Proofs.CandleFetching
import LiveTrader.Proofs.AcceptedConfigs
import LiveTrader.Proofs.RiskVerdicts
import LiveTrader.Proofs.StreamHealth
import LiveTrader.Proofs.AdapterSettings
import LiveTrader.Proofs.StartupChecks
import LiveTrader.Proofs.CivilTime
import LiveTrader.Proofs.WrittenTimes
import LiveTrader.Proofs.StreamEvents
import LiveTrader.Proofs.OrderIds
import LiveTrader.Proofs.EmbeddedFaults
import LiveTrader.Proofs.Concurrence
import LiveTrader.Proofs.Confidentiality
import LiveTrader.Proofs.QueryText
import LiveTrader.Proofs.WindowDates
