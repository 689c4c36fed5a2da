import AntiFlock.Go.Map
import AntiFlock.Sql.Transaction
import AntiFlock.Storage.Envelope

set_option autoImplicit false

/-!
# The event store

The tables that ingestion, the projection cursors and retention share, and the
transactions `AppendEvent` and `SetProjectionCursor`. Rows are kept in the order
of their ingest ordinal.
-/
namespace AntiFlock.Storage
open AntiFlock.Go AntiFlock.Sql

inductive StorageErr where
  | invalid (text : String)
  | sequenceConflict
  | sequenceGap (text : String)
  | bootRegression (bootID : String)
  | eventNotFound
  | projectionNotReady (projection : String)
  | retentionIntegrity (text : String)
  | constraint (text : String)
deriving DecidableEq

/-- A row of `events`; times are sortable nanoseconds. -/
structure EventRow where
  ordinal : ℕ
  id : String
  schemaVersion : String
  deploymentID : String
  nodeID : String
  kind : String
  observedAt : ℤ
  receivedAt : ℤ
  sequence : ℕ
  bootID : String
  classification : EvidenceClass
  confidence : UInt32
  sensitivity : Sensitivity
  wire : List UInt8
deriving DecidableEq

structure NodeEventState where
  currentBootID : String
  highest : ℕ
  lastEventID : String
  updatedAt : Instant
deriving DecidableEq

structure NodeEventBoot where
  highest : ℕ
  startedAt : Instant
  updatedAt : Instant
deriving DecidableEq

structure ProjectionCursor where
  lastIngestOrdinal : ℕ
  lastReceivedAt : ℤ
  lastEventID : String
  updatedAt : Instant
deriving DecidableEq

structure Tombstone where
  id : ℕ
  first : ℕ
  last : ℕ
  count : ℕ
  batchHash : String
  policyJSON : String
  cutoffAt : String
  prunedAt : String
  previousHash : String
  hash : String
deriving DecidableEq

structure Tables where
  events : List EventRow
  /-- The greatest ordinal ever given out, which deletion does not lower. -/
  lastOrdinal : ℕ
  nodeStates : Map String NodeEventState
  boots : Map (String × String) NodeEventBoot
  /-- `last_seen_at` of the enrolled nodes. -/
  lastSeen : Map String (Option Instant)
  cursors : Map String ProjectionCursor
  tombstones : List Tombstone
  lastTombstone : ℕ
  tombstoneCount : ℕ
  headHash : String

def Tables.new (nodes : Map String (Option Instant)) : Tables :=
  ⟨[], 0, ∅, ∅, nodes, ∅, [], 0, 0, ""⟩

/-- `sortableTime`. -/
def sortableTime (t : Instant) : ℤ := if t.isZero then -2 ^ 63 else t.unixNano

def maximumRowID : ℕ := 2 ^ 63 - 1

abbrev EventTx := Tx Tables StorageErr

section Append
variable (proto : Protobuf)

def marshalSourceEvent (event : EventEnvelope) : Option (List UInt8) :=
  proto.marshal { event with receivedAt := Instant.zero }

def unmarshalEvent (encoded : List UInt8) : Except StorageErr EventEnvelope :=
  match proto.unmarshal encoded with
  | none => .error (.invalid "decode event protobuf")
  | some event =>
    match event.validate proto with
    | some err => .error (.invalid ("validate stored event: " ++ err))
    | none => .ok event

/-- The checks of `AppendEvent` in front of its transaction; the result is the encoding to store. -/
def admission (event : EventEnvelope) : Except StorageErr (List UInt8) :=
  match event.validate proto with
  | some err => .error (.invalid err)
  | none =>
    if event.receivedAt.isZero then
      .error (.invalid "event received time is required for durable ingestion")
    else
      match event.validateEvidenceAt event.receivedAt with
      | some err => .error (.invalid err)
      | none =>
        match proto.marshal event with
        | none => .error (.invalid "encode event protobuf")
        | some encoded =>
          if encoded.length > maximumEventWireBytes then
            .error (.invalid ("event envelope exceeds " ++ toString maximumEventWireBytes ++ " bytes"))
          else .ok encoded

/-- What `AppendEvent` answers for an id that is already stored. -/
def resend (stored : EventRow) (event : EventEnvelope) : Except StorageErr Bool :=
  match unmarshalEvent proto stored.wire with
  | .error err => .error err
  | .ok existing =>
    match marshalSourceEvent proto event, marshalSourceEvent proto existing with
    | some incoming, some source => if incoming = source then .ok false else .error .sequenceConflict
    | _, _ => .error (.invalid "encode source event protobuf")

def bootRow (event : EventEnvelope) : NodeEventBoot :=
  ⟨event.sequence, event.observedAt, event.receivedAt⟩

def insertBoot (event : EventEnvelope) : EventTx Unit := do
  let t ← get
  Tx.require (t.boots.lookup (event.nodeID, event.bootID) = none) (.constraint "node_event_boots")
  modify fun t => { t with boots := t.boots.insert (event.nodeID, event.bootID) (bootRow event) }

def stateRow (event : EventEnvelope) : NodeEventState :=
  ⟨event.bootID, event.sequence, event.id, event.receivedAt⟩

def advanceEventSequence (event : EventEnvelope) : EventTx Unit := do
  let t ← get
  match t.nodeStates.lookup event.nodeID with
  | none =>
    Tx.require (event.sequence = 1)
      (.sequenceGap ("first event for node " ++ event.nodeID ++ " must be sequence 1"))
    modify fun t => { t with nodeStates := t.nodeStates.insert event.nodeID (stateRow event) }
    insertBoot event
  | some state =>
    if state.currentBootID ≠ event.bootID then
      Tx.require (t.boots.lookup (event.nodeID, event.bootID) = none) (.bootRegression event.bootID)
      Tx.require (event.sequence = 1) (.sequenceGap "a new boot must begin at sequence 1")
      insertBoot event
    else
      -- Sequences are 64-bit words in the source.
      Tx.require (event.sequence = (state.highest + 1) % 2 ^ 64)
        (if event.sequence ≤ state.highest then .sequenceConflict
          else .sequenceGap ("got " ++ toString event.sequence ++ " after " ++ toString state.highest))
    modify fun t => { t with
      nodeStates := t.nodeStates.insert event.nodeID (stateRow event)
      boots := Map.update (event.nodeID, event.bootID)
        (fun row => { row with highest := event.sequence, updatedAt := event.receivedAt }) t.boots }

def eventRow (event : EventEnvelope) (ordinal : ℕ) (encoded : List UInt8) : EventRow where
  ordinal := ordinal
  id := event.id
  schemaVersion := event.schemaVersion
  deploymentID := event.deploymentID
  nodeID := event.nodeID
  kind := event.kind
  observedAt := sortableTime event.observedAt
  receivedAt := sortableTime event.receivedAt
  sequence := event.sequence
  bootID := event.bootID
  classification := event.classification
  confidence := event.confidence
  sensitivity := event.sensitivity
  wire := encoded

/-- The columns of `UNIQUE(node_id, boot_id, sequence)`. -/
def EventRow.position (row : EventRow) : String × String × ℕ := (row.nodeID, row.bootID, row.sequence)

def insertEvent (event : EventEnvelope) (encoded : List UInt8) : EventTx Unit := do
  let t ← get
  Tx.require (∀ row ∈ t.events, row.id ≠ event.id ∧
    row.position ≠ (event.nodeID, event.bootID, event.sequence)) (.constraint "append event")
  Tx.require (t.lastOrdinal < maximumRowID) (.constraint "append event")
  modify fun t => { t with
    events := t.events ++ [eventRow event (t.lastOrdinal + 1) encoded]
    lastOrdinal := t.lastOrdinal + 1 }

def advanceNodeLastSeen (event : EventEnvelope) : EventTx Unit := do
  let t ← get
  match t.lastSeen.lookup event.nodeID with
  | none => return ()
  | some none =>
    modify fun t => { t with lastSeen := t.lastSeen.insert event.nodeID (some event.receivedAt) }
  | some (some previous) =>
    Tx.require previous.Parses (.invalid "parse node last-seen time")
    if previous < event.receivedAt then
      modify fun t => { t with lastSeen := t.lastSeen.insert event.nodeID (some event.receivedAt) }

/-- The transaction of an event whose id is not stored yet. -/
def ingest (event : EventEnvelope) (encoded : List UInt8) : EventTx Bool := do
  advanceEventSequence event
  insertEvent event encoded
  advanceNodeLastSeen event
  return true

/-- `AppendEvent`: whether the event was accepted as new. -/
def appendEvent (event : EventEnvelope) (t : Tables) : Except StorageErr Bool × Tables :=
  match admission proto event with
  | .error err => (.error err, t)
  | .ok encoded =>
    match t.events.find? fun row => row.id = event.id with
    | some stored => (resend proto stored event, t)
    | none => (ingest event encoded).commit t

end Append

/-- `SetProjectionCursor`; a zero ordinal or time is filled in from the event. -/
def setProjectionCursor (projection : String) (cursor : ProjectionCursor) : EventTx Unit := do
  Tx.require (projection ≠ "" ∧ cursor.lastEventID ≠ "" ∧ cursor.updatedAt.isZero = false)
    (.invalid "projection, last event id, and update time are required")
  let t ← get
  match t.events.find? fun row => row.id = cursor.lastEventID with
  | none => throw .eventNotFound
  | some row =>
    Tx.require (cursor.lastIngestOrdinal = 0 ∨ cursor.lastIngestOrdinal = row.ordinal)
      (.invalid "projection cursor ordinal does not match its event")
    Tx.require (cursor.lastReceivedAt = sortableTime Instant.zero ∨ cursor.lastReceivedAt = row.receivedAt)
      (.invalid "projection cursor time does not match its event")
    match t.cursors.lookup projection with
    | none => pure ()
    | some previous =>
      Tx.require (previous.lastIngestOrdinal ≤ row.ordinal) (.invalid "projection cursor cannot move backward")
      Tx.require (previous.lastIngestOrdinal ≠ row.ordinal ∨ previous.lastEventID = cursor.lastEventID)
        (.invalid "projection cursor cannot replace an event at the same ordinal")
      Tx.require (previous.updatedAt.Parses ∧ previous.updatedAt ≤ cursor.updatedAt)
        (.invalid "projection cursor update time cannot move backward")
    modify fun t => { t with
      cursors := t.cursors.insert projection
        ⟨row.ordinal, row.receivedAt, cursor.lastEventID, cursor.updatedAt⟩ }

end AntiFlock.Storage
