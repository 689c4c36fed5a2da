import AntiFlock.Agent.Queue
import AntiFlock.Effect.Logic

set_option autoImplicit false

/-!
# The agent's collection loop

`RunOnce`: collect, build a signed event for each observation with a sequence
from the queue, put the events into the queue, and drain the queue. The
environment may fail any request and the process may die inside any.
-/
namespace AntiFlock.Agent
open AntiFlock.Go AntiFlock.Effect AntiFlock.Storage

structure Observation where
  kind : String
  observedAt : Instant
  classification : EvidenceClass
  confidence : UInt32
  sensitivity : Sensitivity
  payload : Option Message
  evidence : List EvidenceReference

/-- The bits of the `float32` one. -/
def fullConfidence : UInt32 := 0x3f800000

def observe (observedAt : Instant) (kind : String) (payload : Message) : Observation :=
  ⟨kind, observedAt, .detected, fullConfidence, .operatorPrivate, some payload, []⟩

structure TelemetryBuilder where
  deploymentID : String
  nodeID : String
  bootID : String

def eventID (event : EventEnvelope) : String :=
  "event_" ++ hexEncode ((Sha256.sum256 (bytes ("AntiFlock-Event-ID-v1\x00" ++ event.deploymentID ++ "\x00" ++
    event.nodeID ++ "\x00" ++ event.bootID ++ "\x00" ++ toString event.sequence ++ "\x00" ++ event.kind ++ "\x00") ++
    event.payload)).take 16)

namespace TelemetryBuilder
variable (proto : Protobuf) (builder : TelemetryBuilder)

def unsigned (o : Observation) (typeURL : String) (payload : List UInt8) (sequence : ℕ) : EventEnvelope :=
  let event : EventEnvelope := {
    (default : EventEnvelope) with
    schemaVersion := "antiflock.event/v1"
    deploymentID := builder.deploymentID
    nodeID := builder.nodeID
    kind := o.kind
    observedAt := o.observedAt
    receivedAt := Instant.zero
    sequence := sequence
    bootID := builder.bootID
    classification := o.classification
    confidence := o.confidence
    sensitivity := o.sensitivity
    payloadTypeURL := typeURL
    payload := payload
    evidence := o.evidence }
  { event with id := eventID event }

end TelemetryBuilder

section Loop
variable {proto : Protobuf} (decoder : Decoder proto) (builder : TelemetryBuilder)

def batchID (events : List EventEnvelope) : String :=
  "batch-" ++ builder.nodeID ++ "-" ++ builder.bootID ++ "-" ++ toString (events.headI.sequence) ++ "-" ++
    toString ((events.getLast?.getD default).sequence)

end Loop

/-- An environment that may answer anything; a queue file is installed or it is not. -/
def anyEnvironment : Handler agentSig Disk where
  step
    | .install q, d, r, d' => (∃ err, r = .failed err ∧ d' = d) ∨ ((r = .done ∨ ∃ err, r = .unsynced err) ∧ d' = some q)
    | _, d, _, d' => d' = d
  torn
    | .install q, d, d' => d' = d ∨ d' = some q
    | _, d, d' => d' = d

/-- A running agent: its queue in memory and the queue file. -/
structure Running where
  memory : QueueState
  disk : Disk

end AntiFlock.Agent
