import AntiFlock.Agent.Durability
import AntiFlock.Go.Float64

set_option autoImplicit false

/-!
# Are batches admissible?

The loop bounds a batch by its number of events and by its boot. The ingest client
and Core also bound the id of the batch, which is made of two ids and two sequences,
and Core bounds the encoded request.
-/
namespace AntiFlock.Agent
open AntiFlock.Go AntiFlock.Effect AntiFlock.Storage

/-- The batch of a `SubmitEventBatchRequest`. -/
structure EventBatch where
  batchId : String
  nodeId : String
  events : List EventEnvelope

def maximumBatchEvents : ℕ := 256
def bounded (value : String) (maximum : ℕ) : Bool := value != "" && len value ≤ maximum && trimSpace value == value

/-- What the client and Core check of a batch before its events. -/
def EventBatch.bounded (b : EventBatch) : Bool :=
  Agent.bounded b.batchId 128 && Agent.bounded b.nodeId 128 && !b.events.isEmpty && b.events.length ≤ maximumBatchEvents

/-- The batch that `drain` submits. -/
def TelemetryBuilder.request (builder : TelemetryBuilder) (events : List EventEnvelope) : EventBatch :=
  ⟨batchID builder events, builder.nodeID, events⟩

section Batches
variable {proto : Protobuf} {decoder : Decoder proto} {builder : TelemetryBuilder} {q : QueueState} {events : List EventEnvelope}

end Batches

/-! ## A boot id that is too long -/

end AntiFlock.Agent
