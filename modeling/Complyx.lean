import Complyx.Grpc.EnrollService
import Complyx.Lifecycle.RevokedSet
import Complyx.Lifecycle.IdentityBinding
import Complyx.Lifecycle.EnrollIsolation
import Complyx.Lifecycle.SerialAgreement
import Complyx.Lifecycle.UsableCertificates
import Complyx.Transition.Recorder
import Complyx.Lifecycle.TokenRace
import Complyx.Lifecycle.EnrollAtomicity
import Complyx.Ingest.Validator
import Complyx.Ingest.Ingester
import Complyx.Ingest.Authorization
import Complyx.Ingest.RiskLookup
import Complyx.Ingest.OpenRisks
import Complyx.Ingest.RiskCoverage
import Complyx.Db.Scores
import Complyx.Ingest.RiskLedger
import Complyx.Ingest.ScoreRows
import Complyx.Ingest.StaleResults
import Complyx.Ingest.LingeringRisk
import Complyx.Ingest.Delivery
import Complyx.Transition.Expand
import Complyx.Ingest.ScoreRace
import Complyx.Ingest.ScoreSchedule
import Complyx.Encoding.Json
import Complyx.Db.Policies
import Complyx.Distribution.Bundle
import Complyx.Distribution.Resolver
import Complyx.Distribution.Accepted
import Complyx.Distribution.RowOrder
import Complyx.Grpc.AgentService
import Complyx.Grpc.StableHash
import Complyx.Grpc.PolicySync
import Complyx.Grpc.SubmitResults
import Complyx.Ingest.SharedFate
import Complyx.Ingest.RiskLevels
import Complyx.Ingest.Spellings
import Complyx.Orchestrator.State
import Complyx.Orchestrator.LiveAgents
import Complyx.Transition.Beside
import Complyx.Ingest.OwnRows
import Complyx.Grpc.AgentRpc
import Complyx.Grpc.Confinement
import Complyx.Grpc.RecordedHash
import Complyx.Pki.CertProfile
import Complyx.Pki.CaStore
import Complyx.Lifecycle.CaCrashes
import Complyx.Transition.Interleave
import Complyx.Distribution.Snapshot
import Complyx.Transition.Knowledge
import Complyx.Ingest.AdminDecision
import Complyx.Ingest.RiskAccounts
import Complyx.Relational.Index
import Complyx.Distribution.Regroup
import Complyx.Distribution.Remediations
import Complyx.Encoding.Find
import Complyx.Server.SanitizeUrl
import Complyx.Lifecycle.CaExposure
import Complyx.Ingest.FaithfulStore
import Complyx.Orchestrator.CompletePass
import Complyx.Platform.Calendar
import Complyx.Encoding.Decimal
import Complyx.Server.Settings
import Complyx.Encoding.Words
import Complyx.Server.CommandLine
import Complyx.Server.Shutdown
import Complyx.Transition.Isolation
import Complyx.Ingest.SameRows
import Complyx.Grpc.Isolation
import Complyx.Transition.Turns
import Complyx.Transition.Witnessed
import Complyx.Grpc.Mediation
import Complyx.Grpc.Lockout
import Complyx.Transition.Log
import Complyx.Relational.ForeignKey
import Complyx.Db.Admin
import Complyx.Db.Integrity
import Complyx.Distribution.Assignments
import Complyx.Lifecycle.Invitations
import Complyx.Grpc.Presence
import Complyx.Grpc.Attribution
import Complyx.Transition.Bounded
import Complyx.Grpc.Progress
import Complyx.Transition.Ledger
import Complyx.Grpc.Submissions
import Complyx.Transition.Undisturbed
import Complyx.Grpc.Undisturbed
import Complyx.Grpc.RiskClosing
import Complyx.Server.Startup
import Complyx.Grpc.BothPorts
import Complyx.Grpc.FullCycle
import Complyx.Grpc.Standing
