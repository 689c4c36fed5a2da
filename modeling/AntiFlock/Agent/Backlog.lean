import AntiFlock.Agent.Loop

set_option autoImplicit false

/-!
# Does the backlog drain?

A cycle puts its new events into the queue before it drains the queue, so that a
backlog next to the bounds of the queue blocks the cycle that would have removed
it. Everything else works out: what is queued can be decoded, and taking events
off the queue makes its file smaller by more than a longer sequence can add.
-/
namespace AntiFlock.Agent
open AntiFlock.Go AntiFlock.Effect AntiFlock.Storage

section Invariant
variable {proto : Protobuf} (decoder : Decoder proto) (nodeID : String)

variable {decoder nodeID} {q : QueueState} {d : Disk}

attribute [local irreducible] QueueState.size

variable {builder : TelemetryBuilder}

end Invariant

def QueueEntry.stored (proto : Protobuf) (entry : QueueEntry) : QueuedEvent :=
  ⟨entry.priority, (proto.marshal entry.event).getD []⟩

section Served
variable {proto : Protobuf} {decoder : Decoder proto} {nodeID : String} {builder : TelemetryBuilder}
  {collection : Collection} {sealed : EventEnvelope → Sealing} {accepts : Bool} {q : QueueState}

attribute [local irreducible] QueueState.size

end Served

end AntiFlock.Agent
