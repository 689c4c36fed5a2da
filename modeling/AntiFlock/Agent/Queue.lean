import AntiFlock.Effect.Prog
import AntiFlock.Go.Encoding
import AntiFlock.Storage.Envelope
import Mathlib.Data.List.Sort

set_option autoImplicit false

/-!
# The agent's durable queue

The queue is one file that each change replaces as a whole. What the agent asks
of its environment are atomic requests: to collect, to sign, to install a queue
file and to submit a batch. The queue in memory is passed along; it survives a
failed request and not the process.
-/
namespace AntiFlock.Agent
open AntiFlock.Go AntiFlock.Effect AntiFlock.Storage

def queueSchema : String := "antiflock.agent-queue/v1"
def maximumQueueEvents : ℕ := 10000
def maximumQueueBytes : ℕ := 32 * 2 ^ 20

structure QueuedEvent where
  priority : UInt8
  wire : List UInt8
deriving DecidableEq

structure QueueEntry where
  event : EventEnvelope
  priority : UInt8
deriving DecidableEq

structure QueueState where
  nodeID : String
  lastSequence : ℕ
  events : List QueuedEvent
  /-- No slice was made for the events yet, which is not the text of an empty slice. -/
  nilEvents : Bool
deriving DecidableEq

def QueuedEvent.marshal (stored : QueuedEvent) : String :=
  "\x7b\"priority\":" ++ toString stored.priority.toNat ++ ",\"wire\":" ++
    Json.quote (String.ofList (rawBase64 stored.wire)) ++ "\x7d"

def QueueState.marshalEvents (q : QueueState) : String :=
  if q.nilEvents = true ∧ q.events = [] then "null" else Json.array (q.events.map QueuedEvent.marshal)

def queueHeader (nodeID : String) : String :=
  "\x7b\"schemaVersion\":" ++ Json.quote queueSchema ++ ",\"nodeId\":" ++ Json.quote nodeID ++ ",\"lastSequence\":"

def QueueState.marshal (q : QueueState) : String :=
  queueHeader q.nodeID ++ toString q.lastSequence ++ ",\"events\":" ++ q.marshalEvents ++ "\x7d"

def QueueState.size (q : QueueState) : ℕ := len q.marshal

/-- The queue file, where there is one: the text of a complete state. -/
abbrev Disk := Option QueueState

def newQueue (nodeID : String) : QueueState := ⟨nodeID, 0, [], true⟩

/-- `load`. -/
def loadQueue (nodeID : String) : Disk → Except String QueueState
  | none => .ok (newQueue nodeID)
  | some q =>
    if q.size > maximumQueueBytes then .error "agent queue file is not a bounded private regular file"
    else if q.nodeID ≠ nodeID ∨ q.events.length > maximumQueueEvents then .error "agent queue schema is invalid"
    else .ok q

/-- A protobuf message and its deterministic encoding, where it has one. -/
structure Message where
  fullName : String
  encoded : Option (List UInt8)

/-- The parts of a collection that become observations. -/
structure Collection where
  observedAt : Option Instant
  interfaces : List Message
  routes : List Message
  dns : Option Message
  flows : List Message
  meshPeers : List Message
  meshPaths : List Message

/-- What the signer answers, and what the clock shows before and after it. -/
structure Sealing where
  before : Instant
  signed : Option EventEnvelope
  after : Instant

inductive Installed where
  | failed (err : String)
  /-- The file is in place and the directory was not synced. -/
  | unsynced (err : String)
  | done
deriving DecidableEq

inductive Request where
  | collect
  | sign (event : EventEnvelope)
  | install (q : QueueState)
  | submit (batchID : String) (events : List EventEnvelope)

def Answer : Request → Type
  | .collect => Option Collection
  | .sign _ => Sealing
  | .install _ => Installed
  | .submit _ _ => Bool

def agentSig : Sig := ⟨Request, Answer⟩

/-- A program of the agent that changes the queue in memory. -/
abbrev Action (α : Type) := Prog agentSig (Except String α × QueueState)

def install (q : QueueState) : Prog agentSig Installed := .call (S := agentSig) (.install q) .ret

def save (q : QueueState) : Prog agentSig Installed :=
  if q.size > maximumQueueBytes then .ret (.failed "encode bounded agent queue") else install q

def QueueState.advanced (q : QueueState) (n : ℕ) : QueueState := { q with lastSequence := q.lastSequence + n }

def nextSequence (q : QueueState) : Action ℕ :=
  if q.lastSequence = 2 ^ 64 - 1 then .ret (.error "agent event sequence exhausted", q)
  else
    (save (q.advanced 1)).bind fun
      | .done => .ret (.ok (q.lastSequence + 1), q.advanced 1)
      | .failed err => .ret (.error err, q.advanced 1)
      | .unsynced err => .ret (.error err, q.advanced 1)

section Entries
variable (proto : Protobuf)

def encodeEntry (nodeID : String) (entry : QueueEntry) : Except String QueuedEvent :=
  if entry.event.id = "" ∨ entry.event.sequence = 0 ∨ entry.event.nodeID ≠ nodeID then
    .error "queue requires signed node-scoped events"
  else
    match proto.marshal entry.event with
    | none => .error "encode queued event"
    | some wire => .ok ⟨entry.priority, wire⟩

def QueueState.extended (q : QueueState) (encoded : List QueuedEvent) : QueueState :=
  { q with events := q.events ++ encoded, nilEvents := false }

def enqueueBatch (entries : List QueueEntry) (q : QueueState) : Action Unit :=
  if entries = [] then .ret (.error "queue requires signed events", q)
  else
    match entries.mapM (encodeEntry proto q.nodeID) with
    | .error err => .ret (.error err, q)
    | .ok encoded =>
      -- The source subtracts in signed integers.
      if maximumQueueEvents < q.events.length + entries.length then
        .ret (.error "agent queue is full; telemetry is retained and collection must pause", q)
      else
        (save (q.extended encoded)).bind fun
          | .done => .ret (.ok (), q.extended encoded)
          | .unsynced err => .ret (.error err, q.extended encoded)
          -- What is cut back is an empty slice where there was none.
          | .failed err => .ret (.error err, { q with nilEvents := false })

end Entries

/-- `proto.Unmarshal` of an envelope, which gives back each valid envelope that was encoded. -/
structure Decoder (proto : Protobuf) where
  decode : List UInt8 → Option EventEnvelope
  decode_marshal : ∀ event wire, event.validate proto = none → proto.marshal event = some wire →
    decode wire = some event

section Batches
variable {proto : Protobuf} (decoder : Decoder proto)

/-- The loop of `Batch` behind the events taken so far. -/
def takeBatch (nodeID : String) (maximum : ℕ) : List QueuedEvent → List EventEnvelope → String →
    Except String (List EventEnvelope)
  | [], values, _ => .ok values
  | stored :: rest, values, bootID =>
    if values.length = maximum then .ok values
    else
      match decoder.decode stored.wire with
      | none => .error "queued event is invalid"
      | some event =>
        if event.id = "" ∨ event.sequence = 0 ∨ event.nodeID ≠ nodeID ∨ event.bootID = "" then
          .error "queued event is invalid"
        else
          let bootID' := if bootID = "" then event.bootID else bootID
          if event.bootID ≠ bootID' then takeBatch nodeID maximum rest values bootID'
          else takeBatch nodeID maximum rest (values ++ [event]) bootID'

def inSequence (a b : EventEnvelope) : Prop := a.sequence ≤ b.sequence

instance : DecidableRel inSequence := fun a b => inferInstanceAs (Decidable (a.sequence ≤ b.sequence))

def batch (maximum : ℕ) (q : QueueState) : Except String (List EventEnvelope) :=
  (takeBatch decoder q.nodeID maximum q.events [] "").map (List.insertionSort inSequence)

def unsent (ids : List String) : List QueuedEvent → Except String (List QueuedEvent)
  | [] => .ok []
  | stored :: rest =>
    match decoder.decode stored.wire with
    | none => .error "queued event is invalid"
    | some event =>
      match unsent ids rest with
      | .error err => .error err
      | .ok kept => .ok (if event.id ∈ ids then kept else stored :: kept)

def QueueState.shortened (q : QueueState) (kept : List QueuedEvent) : QueueState :=
  { q with events := kept, nilEvents := false }

def acknowledge (events : List EventEnvelope) (q : QueueState) : Action Unit :=
  if events = [] then .ret (.error "queue acknowledgement requires events", q)
  else if ∃ event ∈ events, event.id = "" then
    .ret (.error "queue acknowledgement contains an invalid event", q)
  else
    match unsent decoder (events.map (·.id)) q.events with
    | .error err => .ret (.error err, q)
    | .ok kept =>
      if kept.length = q.events.length then .ret (.error "acknowledgement did not match queued events", q)
      else
        (save (q.shortened kept)).bind fun
          | .done => .ret (.ok (), q.shortened kept)
          | .unsynced err => .ret (.error err, q.shortened kept)
          | .failed err => .ret (.error err, q)

end Batches
end AntiFlock.Agent
