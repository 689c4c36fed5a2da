import AntiFlock.Go.Instant
import AntiFlock.Go.Text

set_option autoImplicit false

/-!
# Event envelopes

The envelope a node signs and its checks. The protobuf library and the message
types generated for it are the parameter `Protobuf`.
-/
namespace AntiFlock.Storage
open AntiFlock.Go

inductive EvidenceClass where
  | detected
  | verified
  | reported
  | inferred
  | suspected
  | unknown
  /-- A text that is none of the classes. -/
  | unlisted (text : String)
deriving DecidableEq, Inhabited

def EvidenceClass.valid : EvidenceClass → Bool
  | unlisted _ => false
  | _ => true

def EvidenceClass.text : EvidenceClass → String
  | detected => "DETECTED"
  | verified => "VERIFIED"
  | reported => "REPORTED"
  | inferred => "INFERRED"
  | suspected => "SUSPECTED"
  | unknown => "UNKNOWN"
  | unlisted text => text

inductive Sensitivity where
  | «public»
  | internal
  | operatorPrivate
  | restricted
  | secret
  | unlisted (text : String)
deriving DecidableEq, Inhabited

def Sensitivity.valid : Sensitivity → Bool
  | unlisted _ => false
  | _ => true

def Sensitivity.text : Sensitivity → String
  | «public» => "PUBLIC"
  | internal => "INTERNAL"
  | operatorPrivate => "OPERATOR_PRIVATE"
  | restricted => "RESTRICTED"
  | secret => "SECRET"
  | unlisted text => text

def Sensitivity.rank : Sensitivity → ℕ
  | «public» => 1
  | internal => 2
  | operatorPrivate => 3
  | restricted => 4
  | secret => 5
  | unlisted _ => 0

/-- The bits of a `float32` that lies between 0 and 1. Minus zero is one of them. -/
def confidenceValid (bits : UInt32) : Bool := bits ≤ 0x3f800000 || bits == 0x80000000

structure IntegrityDigest where
  algorithm : String
  digest : List UInt8
deriving DecidableEq, Inhabited

def IntegrityDigest.sha256 (d : IntegrityDigest) : Bool :=
  d.algorithm == "sha256" && d.digest.length == 32

structure EvidenceReference where
  id : String
  role : String
  classification : EvidenceClass
  sourceType : String
  source : String
  sourceURI : String
  observedAt : Instant
  receivedAt : Option Instant
  lastVerifiedAt : Option Instant
  expiresAt : Option Instant
  confidence : UInt32
  sensitivity : Sensitivity
  locationPrecision : String
  explanation : String
  integrity : IntegrityDigest
  sourceLicense : String
  attributes : List (String × String)
deriving DecidableEq, Inhabited

structure Signature where
  keyID : String
  algorithm : String
  value : List UInt8
  signedAt : Instant
  encoding : String
  signedContentDigest : IntegrityDigest
  domain : String
deriving DecidableEq, Inhabited

structure EventEnvelope where
  id : String
  schemaVersion : String
  deploymentID : String
  nodeID : String
  kind : String
  observedAt : Instant
  receivedAt : Instant
  sequence : ℕ
  bootID : String
  classification : EvidenceClass
  confidence : UInt32
  sensitivity : Sensitivity
  payloadTypeURL : String
  payload : List UInt8
  evidence : List EvidenceReference
  correlationID : String
  causationID : String
  payloadDigest : IntegrityDigest
  sourceSignature : Signature
deriving DecidableEq, Inhabited

/-- What the envelope code asks of the protobuf library. -/
structure Protobuf where
  /-- Decodes a payload as the named message and rejects unknown fields, other encodings than the
  deterministic one, invalid timestamps and sensitivities above the envelope's. -/
  payload : String → List UInt8 → Sensitivity → Option String
  /-- Whether bytes are a sequence of protobuf fields. -/
  fields : List UInt8 → Bool
  /-- The deterministic encoding of the message of an envelope, where it has one. -/
  marshal : EventEnvelope → Option (List UInt8)
  unmarshal : List UInt8 → Option EventEnvelope

def maximumEventWireBytes : ℕ := 1024 * 1024
def maximumPayloadBytes : ℕ := 256 * 1024

def boundedString (value : String) (maximum : ℕ) : Bool :=
  value != "" && len value ≤ maximum && trimSpace value == value

def optionalBoundedString (value : String) (maximum : ℕ) : Bool :=
  value == "" || boundedString value maximum

def validLocationPrecision (value : String) : Bool :=
  ["", "WITHHELD", "REGION", "CITY", "NEIGHBORHOOD", "BLOCK", "EXACT"].contains value

def validEvidenceRole (value : String) : Bool := ["SUPPORTING", "CONTRADICTING", "CONTEXT"].contains value

def validEvidenceSource (value : String) : Bool :=
  ["LOCAL_SENSOR", "AUTHORIZED_GATEWAY", "PROVIDER_API", "PUBLIC_RECORD", "PUBLIC_DATASET",
    "COMMUNITY_REPORT", "TRUSTED_REVIEWER", "DETERMINISTIC_RULE", "OPERATOR_DECLARATION"].contains value

def typePrefix : String := "type.googleapis.com/"

def payloadContracts : List (String × String) :=
  (["node.enrolled", "node.suspended", "node.revoked"].map (·, "Node")) ++
  [("node.heartbeat", "NodeHeartbeat"), ("node.capabilities_changed", "CapabilityManifest"),
    ("network.interface_changed", "NetworkInterfaceObservation"),
    ("network.gateway_changed", "GatewayObservation"), ("network.wifi_changed", "WifiObservation"),
    ("network.route_changed", "RouteObservation"), ("network.dns_changed", "DnsObservation")] ++
  (["flow.started", "flow.updated", "flow.ended"].map (·, "FlowObservation")) ++
  [("service.listening", "ListeningServiceObservation"), ("mesh.peer_changed", "MeshPeerObservation")] ++
  (["mesh.path_changed", "mesh.exit_changed", "mesh.connection_lost"].map (·, "MeshPathObservation")) ++
  [("posture.changed", "ProtectionSnapshot"), ("policy.compiled", "Plan")] ++
  (["policy.applied", "policy.failed", "policy.rolled_back"].map (·, "PlanExecutionResult")) ++
  (["finding.opened", "finding.updated", "finding.resolved"].map (·, "Finding")) ++
  (["action.held", "action.allowed", "action.blocked", "action.bypassed"].map (·, "SecureActionDecision")) ++
  (["field.report_imported", "field.report_submitted", "field.report_verified", "field.report_expired",
    "field.report_disputed", "field.report_removed"].map (·, "FieldReport")) ++
  (["scrambler.state_proposed", "scrambler.state_applied", "scrambler.state_failed",
    "scrambler.state_rolled_back"].map (·, "ScramblerTransition"))

def firstError (checks : List (Option String)) : Option String := checks.findSome? id

def assert (ok : Bool) (err : String) : Option String := if ok then none else some err

def validateEventPayload (proto : Protobuf) (kind typeURL : String) (value : List UInt8)
    (envelope : Sensitivity) : Option String :=
  if value.isEmpty then some "event protobuf payload is required"
  else if value.length > maximumPayloadBytes then
    some ("event payload exceeds " ++ toString maximumPayloadBytes ++ " bytes")
  else if !hasPrefix typeURL typePrefix then
    some "event payload type URL must use type.googleapis.com"
  else
    match payloadContracts.lookup kind with
    | none => assert (proto.fields value) "event payload is not valid protobuf"
    | some message =>
      if typeURL != typePrefix ++ "antiflock.v1." ++ message then
        some ("event kind " ++ kind ++ " requires payload type " ++ typePrefix ++ "antiflock.v1." ++ message)
      else proto.payload message value envelope

/-- `validateProtoTime`. -/
def protoTime (value : Instant) (field : String) : Option String :=
  assert value.protoValid (field ++ ": timestamp out of range")

def EvidenceReference.validate (e : EvidenceReference) (envelope : Sensitivity) (index : ℕ) :
    Option String :=
  let at_ := "evidence " ++ toString index
  firstError [
    assert (boundedString e.id 128 && validEvidenceRole e.role && validEvidenceSource e.sourceType)
      (at_ ++ " requires an id, role, and source type"),
    assert e.classification.valid (at_ ++ " has invalid classification " ++ e.classification.text),
    assert (confidenceValid e.confidence) (at_ ++ " confidence must be between 0 and 1"),
    assert (boundedString e.source 256 && boundedString e.explanation 2048 && !e.observedAt.isZero)
      (at_ ++ " requires source and explanation"),
    assert (optionalBoundedString e.sourceURI 2048 && optionalBoundedString e.sourceLicense 256)
      (at_ ++ " has an invalid source URI or license"),
    assert (validLocationPrecision e.locationPrecision)
      (at_ ++ " has invalid location precision " ++ e.locationPrecision),
    protoTime e.observedAt (at_ ++ " observed time"),
    e.receivedAt.bind (protoTime · (at_ ++ " received time")),
    e.lastVerifiedAt.bind (protoTime · (at_ ++ " last verified time")),
    e.expiresAt.bind (protoTime · (at_ ++ " expires time")),
    assert ((e.integrity.algorithm == "" && e.integrity.digest.isEmpty) || e.integrity.sha256)
      (at_ ++ " integrity must be SHA-256"),
    assert (e.sensitivity.valid && e.sensitivity.rank ≤ envelope.rank)
      (at_ ++ " sensitivity exceeds its event envelope"),
    assert (e.expiresAt.all fun t => e.observedAt < t) (at_ ++ " expiry must follow observation"),
    assert (e.lastVerifiedAt.all fun t => e.observedAt ≤ t) (at_ ++ " verification predates observation"),
    assert (e.attributes.length ≤ 32) (at_ ++ " has too many attributes"),
    assert (e.attributes.all fun a => boundedString a.1 128 && boundedString a.2 1024)
      (at_ ++ " has an oversized attribute")]

def Signature.validate (s : Signature) : Option String :=
  firstError [
    assert (trimSpace s.keyID != "") "key id is required",
    assert (s.algorithm == "ED25519") "algorithm must be ED25519",
    assert (s.value.length == 64) "Ed25519 signature must be 64 bytes",
    assert (!s.signedAt.isZero) "signed time is required",
    assert (s.encoding == "PROTOBUF_DETERMINISTIC_V1") "encoding must be PROTOBUF_DETERMINISTIC_V1",
    assert (s.domain == "antiflock.event.v1") "domain must be antiflock.event.v1",
    assert s.signedContentDigest.sha256 "signed content digest must be SHA-256"]

namespace EventEnvelope

def validateSourceContent (proto : Protobuf) (event : EventEnvelope) : Option String :=
  firstError ([
    assert (boundedString event.id 128) "event id is required",
    assert (event.schemaVersion == "antiflock.event/v1") "event schema version must be antiflock.event/v1",
    assert (boundedString event.deploymentID 128) "event deployment id is required",
    assert (boundedString event.nodeID 128) "event node id is required",
    assert (boundedString event.kind 128 && containsAny event.kind ".") "event kind must be a namespaced value",
    assert (!event.observedAt.isZero) "event observed time is required",
    protoTime event.observedAt "event observed time",
    assert (decide event.observedAt.InNanoRange) "event observed time is outside the durable cursor range",
    assert (event.sequence != 0) "event sequence must be positive",
    assert (event.sequence < 2 ^ 63) "event sequence exceeds durable storage range",
    assert (boundedString event.bootID 128) "event boot id is required",
    assert event.classification.valid ("invalid evidence classification " ++ event.classification.text),
    assert (confidenceValid event.confidence) "event confidence must be between 0 and 1",
    assert event.sensitivity.valid ("invalid event sensitivity " ++ event.sensitivity.text),
    assert (boundedString event.payloadTypeURL 256) "event payload type URL is required",
    assert (optionalBoundedString event.correlationID 128 && optionalBoundedString event.causationID 128)
      "event correlation and causation ids must be canonical and at most 128 bytes",
    validateEventPayload proto event.kind event.payloadTypeURL event.payload event.sensitivity,
    assert event.payloadDigest.sha256 "event payload digest must be SHA-256",
    assert (Sha256.sum256 event.payload == event.payloadDigest.digest)
      "event payload digest does not match the payload",
    assert (event.evidence.length ≤ 64) "event evidence exceeds 64 references"] ++
    event.evidence.mapIdx fun index e => e.validate event.sensitivity index)

def validate (proto : Protobuf) (event : EventEnvelope) : Option String :=
  match event.validateSourceContent proto with
  | some err => some err
  | none => event.sourceSignature.validate.map ("event source signature: " ++ ·)

def evidenceSkew : ℤ := 300 * Instant.perSecond

def supports (e : EvidenceReference) (now : Instant) : Bool :=
  e.role == "SUPPORTING" && e.classification == .verified &&
    (e.lastVerifiedAt.any fun t => t ≤ now + evidenceSkew) &&
    (e.expiresAt.all fun t => now < t) && e.integrity.sha256

def validateEvidenceAt (event : EventEnvelope) (now : Instant) : Option String :=
  assert (event.classification != .verified || event.evidence.any fun e => supports e now)
    "VERIFIED events require fresh supporting VERIFIED evidence with verification time and integrity"

theorem firstError_eq_none {checks : List (Option String)} :
    firstError checks = none ↔ ∀ check ∈ checks, check = none := by
  simp [firstError, List.findSome?_eq_none_iff]

theorem assert_eq_none {ok : Bool} {err : String} : assert ok err = none ↔ ok = true := by
  cases ok <;> simp [assert]

theorem content_of_validate {proto : Protobuf} {event : EventEnvelope} (h : event.validate proto = none) :
    event.validateSourceContent proto = none := by
  unfold validate at h
  split at h
  · cases h
  · assumption

theorem ids_of_validate {proto : Protobuf} {event : EventEnvelope} (h : event.validate proto = none) :
    event.id ≠ "" ∧ event.bootID ≠ "" := by
  have hcontent := content_of_validate h
  rw [validateSourceContent, firstError_eq_none] at hcontent
  have hid := assert_eq_none.mp
    (hcontent (assert (boundedString event.id 128) "event id is required") (by simp))
  have hboot := assert_eq_none.mp
    (hcontent (assert (boundedString event.bootID 128) "event boot id is required") (by simp))
  simp only [boundedString, Bool.and_eq_true, bne_iff_ne] at hid hboot
  exact ⟨hid.1.1, hboot.1.1⟩

theorem sequence_of_validate {proto : Protobuf} {event : EventEnvelope}
    (h : event.validate proto = none) : 0 < event.sequence ∧ event.sequence < 2 ^ 63 := by
  have hcontent := content_of_validate h
  rw [validateSourceContent, firstError_eq_none] at hcontent
  have hpos := assert_eq_none.mp
    (hcontent (assert (event.sequence != 0) "event sequence must be positive") (by simp))
  have hbound := assert_eq_none.mp
    (hcontent (assert (event.sequence < 2 ^ 63) "event sequence exceeds durable storage range") (by simp))
  rw [bne_iff_ne] at hpos
  rw [decide_eq_true_eq] at hbound
  exact ⟨Nat.pos_of_ne_zero hpos, hbound⟩

end EventEnvelope
end AntiFlock.Storage
