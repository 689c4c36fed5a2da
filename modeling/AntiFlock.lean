import AntiFlock.Effect.Prog
import AntiFlock.Effect.Logic
import AntiFlock.Go.Sha256
import AntiFlock.Go.Text
import AntiFlock.Go.Map
import AntiFlock.Go.Wire
import AntiFlock.Go.Framing
import AntiFlock.Driver.Basic
import AntiFlock.Driver.Contract
import AntiFlock.Driver.Journal
import AntiFlock.Driver.Stores
import AntiFlock.Driver.Lifecycle
import AntiFlock.Driver.Rules
import AntiFlock.Driver.Ordering
import AntiFlock.Driver.World
import AntiFlock.Driver.Memory
import AntiFlock.Driver.Leak
import AntiFlock.Driver.Backing
import AntiFlock.Driver.Ownership
import AntiFlock.Driver.Prediction
import AntiFlock.Driver.Discipline
import AntiFlock.Driver.FileJournal
import AntiFlock.Driver.Probe
import AntiFlock.Driver.Digests
import AntiFlock.Driver.Journalled
import AntiFlock.Sql.Transaction
import AntiFlock.Go.Instant
import AntiFlock.Go.Json
import AntiFlock.Go.Calendar
import AntiFlock.Storage.Envelope
import AntiFlock.Storage.Events
import AntiFlock.Storage.Retention
import AntiFlock.Storage.Ingest
import AntiFlock.Go.Encoding
import AntiFlock.Agent.Queue
import AntiFlock.Agent.Loop
import AntiFlock.Agent.Backlog
import AntiFlock.Lines
import AntiFlock.Witness.File
import AntiFlock.Witness.Journal
import AntiFlock.HashChain
import AntiFlock.Audit.Entry
import AntiFlock.Audit.Service
import AntiFlock.Audit.Verify
import AntiFlock.Audit.Recovery
import AntiFlock.Audit.Tamper
import AntiFlock.Enforcement.StateStore
import AntiFlock.Enforcement.Reservations
import AntiFlock.Enforcement.FileState
import AntiFlock.Enforcement.Durable
import AntiFlock.Enforcement.Completion
import AntiFlock.Go.Url
import AntiFlock.Server.Routes
import AntiFlock.Server.Scopes
import AntiFlock.Lexer
import AntiFlock.Go.Utf8
import AntiFlock.Trust.Render
import AntiFlock.Trust.Safety
import AntiFlock.Effect.Pool
import AntiFlock.Effect.Answers
import AntiFlock.Audit.Shared
import AntiFlock.Events.Message
import AntiFlock.Events.Signing
import AntiFlock.Events.Authenticity
import AntiFlock.Events.Ingestion
import AntiFlock.Events.Replay
import AntiFlock.Events.Stream
import AntiFlock.Go.Float64
import AntiFlock.Nano.Program
import AntiFlock.Nano.Evaluate
import AntiFlock.Nano.Proposal
import AntiFlock.Nano.Runner
import AntiFlock.Nano.Pass
import AntiFlock.Nano.Schedule
import AntiFlock.Nano.Compose
import AntiFlock.Posture.Engine
import AntiFlock.Go.Hmac
import AntiFlock.Actions.Gate
import AntiFlock.Proto.Common
import AntiFlock.Enforcement.Plan
import AntiFlock.Go.Except
import AntiFlock.Go.Sorting
import AntiFlock.Go.Document
import AntiFlock.Sql.Rows
import AntiFlock.Proto.Capabilities
import AntiFlock.Enrollment.Tables
import AntiFlock.Enrollment.Expiry
import AntiFlock.Enrollment.Service
import AntiFlock.Enrollment.Admission
import AntiFlock.Enrollment.Calls
import AntiFlock.Enrollment.Replay
import AntiFlock.Agent.Durability
import AntiFlock.Agent.Submission
import AntiFlock.Events.Wire
import AntiFlock.Witness.Retry
import AntiFlock.Capability.Manifest
import AntiFlock.Capability.Readiness
import AntiFlock.Capability.Digest
import AntiFlock.Capability.Prescan
import AntiFlock.Capability.Load
import AntiFlock.History
import AntiFlock.Delimited
import AntiFlock.Guard.Evaluator
import AntiFlock.Guard.Bypass
import AntiFlock.Guard.Appearance
import AntiFlock.Guard.Correlator
import AntiFlock.Trust.Seen
import AntiFlock.Trust.Nesting
import AntiFlock.Scrambler.Planner
import AntiFlock.AgentCli.Update
import AntiFlock.Effect.Trace
import AntiFlock.Enforcement.Enforcer
