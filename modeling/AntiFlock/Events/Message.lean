import AntiFlock.Storage.Envelope
import Mathlib.Data.List.Basic

set_option autoImplicit false

/-!
# Event messages

`EventToProto` maps the envelope of an event to the message of the wire contract.
Signing and storage both go through it. A map of attributes is the list of its
entries in the order of their keys.
-/
namespace AntiFlock.Events
open AntiFlock.Go AntiFlock.Storage

/-! ## Numbers of enumerations -/

def classNumber : EvidenceClass → ℕ
  | .detected => 1
  | .verified => 2
  | .reported => 3
  | .inferred => 4
  | .suspected => 5
  | .unknown => 6
  | .unlisted _ => 0

def sensitivityNumber : Sensitivity → ℕ
  | .«public» => 1
  | .internal => 2
  | .operatorPrivate => 3
  | .restricted => 4
  | .secret => 5
  | .unlisted _ => 0

/-- The number of a name in an enumeration; a name it does not have is unspecified. -/
def enumNumber (names : List String) (value : String) : ℕ :=
  if value ∈ names then names.idxOf value + 1 else 0

def evidenceRoles : List String := ["SUPPORTING", "CONTRADICTING", "CONTEXT"]

def evidenceSourceTypes : List String :=
  ["LOCAL_SENSOR", "AUTHORIZED_GATEWAY", "PROVIDER_API", "PUBLIC_RECORD", "PUBLIC_DATASET", "COMMUNITY_REPORT",
    "TRUSTED_REVIEWER", "DETERMINISTIC_RULE", "OPERATOR_DECLARATION"]

def locationPrecisions : List String := ["WITHHELD", "REGION", "CITY", "NEIGHBORHOOD", "BLOCK", "EXACT"]

def signatureAlgorithms : List String := ["ED25519", "ECDSA_P256_SHA256"]

def signatureEncodings : List String := ["PROTOBUF_DETERMINISTIC_V1"]

structure Timestamp where
  seconds : ℤ
  nanos : ℤ
deriving DecidableEq

structure EvidenceMessage where
  id : String
  role : ℕ
  classification : ℕ
  sourceType : ℕ
  sourceName : String
  sourceUri : String
  observedAt : Timestamp
  receivedAt : Option Timestamp
  lastVerifiedAt : Option Timestamp
  expiresAt : Option Timestamp
  confidence : UInt32
  sensitivity : ℕ
  locationPrecision : ℕ
  summary : String
  integrity : Option IntegrityDigest
  sourceLicense : String
  attributes : List (String × String)
deriving DecidableEq

structure SignatureMessage where
  keyId : String
  algorithm : ℕ
  value : List UInt8
  signedAt : Timestamp
  encoding : ℕ
  signedContentDigest : Option IntegrityDigest
  domain : String
deriving DecidableEq

structure EventMessage where
  id : String
  schemaVersion : String
  deploymentId : String
  nodeId : String
  kind : String
  observedAt : Timestamp
  receivedAt : Option Timestamp
  sequence : ℕ
  bootId : String
  classification : ℕ
  confidence : UInt32
  sensitivity : ℕ
  payloadTypeUrl : String
  payload : List UInt8
  evidence : List EvidenceMessage
  correlationId : String
  causationId : String
  payloadDigest : Option IntegrityDigest
  sourceSignature : Option SignatureMessage
deriving DecidableEq

/-! ## The mapping -/

/-- `timestamppb.New`. -/
def timestamp (t : Instant) : Timestamp := ⟨t / Instant.perSecond, t % Instant.perSecond⟩

def checkedTimestamp (t : Instant) (field : String) : Except String Timestamp :=
  if t.protoValid then .ok (timestamp t) else .error (field ++ ": timestamp out of range")

def requiredTimestamp (t : Instant) (field : String) : Except String Timestamp :=
  if t.isZero then .error (field ++ " is required") else checkedTimestamp t field

/-- An optional time that is there and not the zero time. -/
def present (t : Option Instant) : Option Instant := t.filter fun t => !t.isZero

def optionalTimestamp (t : Option Instant) (field : String) : Except String (Option Timestamp) :=
  match present t with
  | none => .ok none
  | some t => (checkedTimestamp t field).map some

def digestToProto (d : IntegrityDigest) : Option IntegrityDigest :=
  if d.algorithm = "" ∧ d.digest = [] then none else some d

def evidenceToProto (e : EvidenceReference) : Except String EvidenceMessage := do
  let observedAt ← requiredTimestamp e.observedAt "observed_at"
  let receivedAt ← optionalTimestamp e.receivedAt "received_at"
  let lastVerifiedAt ← optionalTimestamp e.lastVerifiedAt "last_verified_at"
  let expiresAt ← optionalTimestamp e.expiresAt "expires_at"
  return {
    id := e.id
    role := enumNumber evidenceRoles e.role
    classification := classNumber e.classification
    sourceType := enumNumber evidenceSourceTypes e.sourceType
    sourceName := e.source
    sourceUri := e.sourceURI
    observedAt, receivedAt, lastVerifiedAt, expiresAt
    confidence := e.confidence
    sensitivity := sensitivityNumber e.sensitivity
    locationPrecision := enumNumber locationPrecisions e.locationPrecision
    summary := e.explanation
    integrity := digestToProto e.integrity
    sourceLicense := e.sourceLicense
    attributes := e.attributes }

def evidencesToProto : ℕ → List EvidenceReference → Except String (List EvidenceMessage)
  | _, [] => .ok []
  | index, e :: es =>
    match evidenceToProto e with
    | .error err => .error ("evidence " ++ toString index ++ ": " ++ err)
    | .ok message => (evidencesToProto (index + 1) es).map (message :: ·)

def signatureToProto (s : Signature) : Except String SignatureMessage := do
  let signedAt ← requiredTimestamp s.signedAt "signature.signed_at"
  return {
    keyId := s.keyID
    algorithm := enumNumber signatureAlgorithms s.algorithm
    value := s.value
    signedAt
    encoding := enumNumber signatureEncodings s.encoding
    signedContentDigest := digestToProto s.signedContentDigest
    domain := s.domain }

def presentSignature (s : Signature) : Except String (Option SignatureMessage) :=
  if s.keyID ≠ "" ∨ s.value ≠ [] then (signatureToProto s).map some else .ok none

def eventToProto (event : EventEnvelope) : Except String EventMessage := do
  let observedAt ← requiredTimestamp event.observedAt "observed_at"
  let receivedAt ← optionalTimestamp (some event.receivedAt) "received_at"
  let evidence ← evidencesToProto 0 event.evidence
  let sourceSignature ← presentSignature event.sourceSignature
  return {
    id := event.id
    schemaVersion := event.schemaVersion
    deploymentId := event.deploymentID
    nodeId := event.nodeID
    kind := event.kind
    observedAt, receivedAt
    sequence := event.sequence
    bootId := event.bootID
    classification := classNumber event.classification
    confidence := event.confidence
    sensitivity := sensitivityNumber event.sensitivity
    payloadTypeUrl := event.payloadTypeURL
    payload := event.payload
    evidence
    correlationId := event.correlationID
    causationId := event.causationID
    payloadDigest := digestToProto event.payloadDigest
    sourceSignature }

/-! ## Reading a timestamp -/

/-- `AsTime` of a valid message. One that is not there counts as the epoch. -/
def asTime : Option Timestamp → Instant
  | none => 0
  | some t => Instant.ofUnix t.seconds + t.nanos

/-- `CheckValid` of a message that is there. -/
def checkValid (t : Timestamp) : Bool :=
  -62135596800 ≤ t.seconds && t.seconds < 253402300800 && 0 ≤ t.nanos && t.nanos < Instant.perSecond

theorem asTime_timestamp (t : Instant) : asTime (some (timestamp t)) = t := by
  change t / Instant.perSecond * Instant.perSecond + t % Instant.perSecond = t
  rw [mul_comm, Int.mul_ediv_add_emod]

theorem checkValid_timestamp (t : ℤ) : checkValid (timestamp t) = Instant.protoValid t := by
  rw [Bool.eq_iff_iff]
  simp only [checkValid, Instant.protoValid, Bool.and_eq_true, decide_eq_true_eq]
  change ((-62135596800 ≤ t / 1000000000 ∧ t / 1000000000 < 253402300800) ∧ 0 ≤ t % 1000000000) ∧
    t % 1000000000 < 1000000000 ↔ -62135596800 * 1000000000 ≤ t ∧ t < 253402300800 * 1000000000
  omega

/-! ## What a message tells -/

theorem checkedTimestamp_ok {t : Instant} {field : String} {ts : Timestamp} (h : checkedTimestamp t field = .ok ts) :
    ts = timestamp t := by
  unfold checkedTimestamp at h
  split at h
  · exact (Except.ok.inj h).symm
  · cases h

theorem requiredTimestamp_ok {t : Instant} {field : String} {ts : Timestamp}
    (h : requiredTimestamp t field = .ok ts) : t.isZero = false ∧ t.protoValid = true ∧ ts = timestamp t := by
  unfold requiredTimestamp at h
  split at h
  · cases h
  rename_i hzero
  have hchecked := h
  unfold checkedTimestamp at hchecked
  split at hchecked
  · rename_i hvalid
    exact ⟨by simpa using hzero, hvalid, checkedTimestamp_ok h⟩
  · cases hchecked

def normal (e : EvidenceReference) : EvidenceReference :=
  { e with
    receivedAt := present e.receivedAt
    lastVerifiedAt := present e.lastVerifiedAt
    expiresAt := present e.expiresAt }

structure Listed (e : EvidenceReference) : Prop where
  role : e.role ∈ evidenceRoles
  classification : e.classification.valid = true
  sourceType : e.sourceType ∈ evidenceSourceTypes
  sensitivity : e.sensitivity.valid = true
  locationPrecision : e.locationPrecision ∈ "" :: locationPrecisions

def evidenceMessage (e : EvidenceReference) : EvidenceMessage where
  id := e.id
  role := enumNumber evidenceRoles e.role
  classification := classNumber e.classification
  sourceType := enumNumber evidenceSourceTypes e.sourceType
  sourceName := e.source
  sourceUri := e.sourceURI
  observedAt := timestamp e.observedAt
  receivedAt := (present e.receivedAt).map timestamp
  lastVerifiedAt := (present e.lastVerifiedAt).map timestamp
  expiresAt := (present e.expiresAt).map timestamp
  confidence := e.confidence
  sensitivity := sensitivityNumber e.sensitivity
  locationPrecision := enumNumber locationPrecisions e.locationPrecision
  summary := e.explanation
  integrity := digestToProto e.integrity
  sourceLicense := e.sourceLicense
  attributes := e.attributes

theorem bind_ok {ε α β : Type} {x : Except ε α} {f : α → Except ε β} {b : β} (h : (x >>= f) = .ok b) :
    ∃ a, x = .ok a ∧ f a = .ok b := by
  cases x with
  | error err => cases h
  | ok a => exact ⟨a, rfl, h⟩

/-- The message of an event's content: without the time of receipt and the signature. -/
def contentMessage (event : EventEnvelope) : EventMessage where
  id := event.id
  schemaVersion := event.schemaVersion
  deploymentId := event.deploymentID
  nodeId := event.nodeID
  kind := event.kind
  observedAt := timestamp event.observedAt
  receivedAt := none
  sequence := event.sequence
  bootId := event.bootID
  classification := classNumber event.classification
  confidence := event.confidence
  sensitivity := sensitivityNumber event.sensitivity
  payloadTypeUrl := event.payloadTypeURL
  payload := event.payload
  evidence := event.evidence.map evidenceMessage
  correlationId := event.correlationID
  causationId := event.causationID
  payloadDigest := digestToProto event.payloadDigest
  sourceSignature := none

theorem signedAt_of_eventToProto {event : EventEnvelope} {m : EventMessage} (h : eventToProto event = .ok m)
    (hkey : event.sourceSignature.keyID ≠ "") : event.sourceSignature.signedAt.protoValid = true := by
  obtain ⟨observedAt, hobserved, h⟩ := bind_ok h
  obtain ⟨receivedAt, -, h⟩ := bind_ok h
  obtain ⟨evidence, hevidence, h⟩ := bind_ok h
  obtain ⟨sourceSignature, hsignature, h⟩ := bind_ok h
  rw [presentSignature, if_pos (.inl hkey)] at hsignature
  cases hmessage : signatureToProto event.sourceSignature with
  | error err =>
    rw [hmessage] at hsignature
    cases hsignature
  | ok message =>
    obtain ⟨signedAt, hsignedAt, -⟩ := bind_ok hmessage
    exact (requiredTimestamp_ok hsignedAt).2.1

end AntiFlock.Events
