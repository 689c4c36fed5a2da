import AntiFlock.Go.Except
import AntiFlock.Events.Authenticity

set_option autoImplicit false

/-!
# Reading events off the wire

`EventFromProto` reads a message back into an envelope. A message that came over the
wire may lack any of its nested messages, may carry fields that the contract does not
have, and its enumerations are any number. What `EventToProto` writes for a valid
event is read back as that event, provided that its time of receipt and its time of
signing are times of the wire contract. The validation asks that of neither.
-/
namespace AntiFlock.Events
open AntiFlock.Go AntiFlock.Storage

/-! ## Messages -/

structure WireEvidence where
  id : String
  role : ℤ
  classification : ℤ
  sourceType : ℤ
  sourceName : String
  sourceUri : String
  observedAt : Option Timestamp
  receivedAt : Option Timestamp
  lastVerifiedAt : Option Timestamp
  expiresAt : Option Timestamp
  confidence : UInt32
  sensitivity : ℤ
  locationPrecision : ℤ
  summary : String
  integrity : Option IntegrityDigest
  sourceLicense : String
  attributes : List (String × String)

structure WireSignature where
  keyId : String
  algorithm : ℤ
  value : List UInt8
  signedAt : Option Timestamp
  encoding : ℤ
  signedContentDigest : Option IntegrityDigest
  domain : String

structure WireEvent where
  id : String
  schemaVersion : String
  deploymentId : String
  nodeId : String
  kind : String
  observedAt : Option Timestamp
  receivedAt : Option Timestamp
  sequence : ℕ
  bootId : String
  classification : ℤ
  confidence : UInt32
  sensitivity : ℤ
  /-- The type URL and the value. -/
  payload : Option (String × List UInt8)
  evidence : List (Option WireEvidence)
  correlationId : String
  causationId : String
  payloadDigest : Option IntegrityDigest
  sourceSignature : Option WireSignature
  /-- Some message of it has fields that the contract does not have. -/
  unknownFields : Bool

def EvidenceMessage.wire (m : EvidenceMessage) : WireEvidence where
  id := m.id
  role := m.role
  classification := m.classification
  sourceType := m.sourceType
  sourceName := m.sourceName
  sourceUri := m.sourceUri
  observedAt := some m.observedAt
  receivedAt := m.receivedAt
  lastVerifiedAt := m.lastVerifiedAt
  expiresAt := m.expiresAt
  confidence := m.confidence
  sensitivity := m.sensitivity
  locationPrecision := m.locationPrecision
  summary := m.summary
  integrity := m.integrity
  sourceLicense := m.sourceLicense
  attributes := m.attributes

def SignatureMessage.wire (m : SignatureMessage) : WireSignature where
  keyId := m.keyId
  algorithm := m.algorithm
  value := m.value
  signedAt := some m.signedAt
  encoding := m.encoding
  signedContentDigest := m.signedContentDigest
  domain := m.domain

def EventMessage.wire (m : EventMessage) : WireEvent where
  id := m.id
  schemaVersion := m.schemaVersion
  deploymentId := m.deploymentId
  nodeId := m.nodeId
  kind := m.kind
  observedAt := some m.observedAt
  receivedAt := m.receivedAt
  sequence := m.sequence
  bootId := m.bootId
  classification := m.classification
  confidence := m.confidence
  sensitivity := m.sensitivity
  payload := some (m.payloadTypeUrl, m.payload)
  evidence := m.evidence.map fun e => some e.wire
  correlationId := m.correlationId
  causationId := m.causationId
  payloadDigest := m.payloadDigest
  sourceSignature := m.sourceSignature.map SignatureMessage.wire
  unknownFields := false

/-! ## Names of enumerations -/

def evidenceClasses : List String := ["DETECTED", "VERIFIED", "REPORTED", "INFERRED", "SUSPECTED", "UNKNOWN"]

def sensitivities : List String := ["PUBLIC", "INTERNAL", "OPERATOR_PRIVATE", "RESTRICTED", "SECRET"]

/-- `trimEnum` of `String`: the name of a number without its enumeration. A number that has no name is
written in digits. -/
def enumName (names : List String) (number : ℤ) : String :=
  if number = 0 then "UNSPECIFIED"
  else if 0 < number then names[number.toNat - 1]?.getD (toString number)
  else toString number

def knownNumber (names : List String) (number : ℤ) : Bool := 0 ≤ number && number ≤ names.length

def evidenceClassFromProto (number : ℤ) : EvidenceClass :=
  match enumName evidenceClasses number with
  | "DETECTED" => .detected
  | "VERIFIED" => .verified
  | "REPORTED" => .reported
  | "INFERRED" => .inferred
  | "SUSPECTED" => .suspected
  | "UNKNOWN" => .unknown
  | text => .unlisted text

def sensitivityFromProto (number : ℤ) : Sensitivity :=
  match enumName sensitivities number with
  | "PUBLIC" => .«public»
  | "INTERNAL" => .internal
  | "OPERATOR_PRIVATE" => .operatorPrivate
  | "RESTRICTED" => .restricted
  | "SECRET" => .secret
  | text => .unlisted text

def locationPrecisionFromProto (number : ℤ) : String :=
  if number = 0 then "" else enumName locationPrecisions number

/-! ## Reading -/

def WireEvidence.known (e : WireEvidence) : Bool :=
  knownNumber evidenceRoles e.role && knownNumber evidenceClasses e.classification &&
    knownNumber evidenceSourceTypes e.sourceType && knownNumber sensitivities e.sensitivity &&
    knownNumber locationPrecisions e.locationPrecision

def WireSignature.known (s : WireSignature) : Bool :=
  knownNumber signatureAlgorithms s.algorithm && knownNumber signatureEncodings s.encoding

def WireEvent.known (event : WireEvent) : Bool :=
  knownNumber evidenceClasses event.classification && knownNumber sensitivities event.sensitivity &&
    (event.evidence.all fun e => e.all WireEvidence.known) && event.sourceSignature.all WireSignature.known

/-- `RejectUnknownFields` of an event. The fields of a message are visited in no fixed order, so the
error does not say which number is unknown. -/
def WireEvent.rejectUnknownFields (event : WireEvent) : Except String Unit :=
  if event.unknownFields then .error "protobuf message contains unknown fields"
  else if !event.known then .error "protobuf field contains unknown enum value"
  else .ok ()

def timestampToTime (value : Option Timestamp) (required : Bool) (field : String) : Except String Instant :=
  match value with
  | none => if required then .error (field ++ " is required") else .ok Instant.zero
  | some t => if checkValid t then .ok (asTime (some t)) else .error (field ++ ": timestamp out of range")

def timestampToPointer (value : Option Timestamp) (field : String) : Except String (Option Instant) := do
  let converted ← timestampToTime value false field
  return present (some converted)

def digestFromProto : Option IntegrityDigest → IntegrityDigest
  | none => ⟨"", []⟩
  | some d => d

def evidenceFromProto : Option WireEvidence → Except String EvidenceReference
  | none => .error "evidence reference is required"
  | some m => do
    let observedAt ← timestampToTime m.observedAt true "observed_at"
    let receivedAt ← timestampToPointer m.receivedAt "received_at"
    let lastVerifiedAt ← timestampToPointer m.lastVerifiedAt "last_verified_at"
    let expiresAt ← timestampToPointer m.expiresAt "expires_at"
    return {
      id := m.id
      role := enumName evidenceRoles m.role
      classification := evidenceClassFromProto m.classification
      sourceType := enumName evidenceSourceTypes m.sourceType
      source := m.sourceName
      sourceURI := m.sourceUri
      observedAt, receivedAt, lastVerifiedAt, expiresAt
      confidence := m.confidence
      sensitivity := sensitivityFromProto m.sensitivity
      locationPrecision := locationPrecisionFromProto m.locationPrecision
      explanation := m.summary
      integrity := digestFromProto m.integrity
      sourceLicense := m.sourceLicense
      attributes := m.attributes }

def evidencesFromProto : ℕ → List (Option WireEvidence) → Except String (List EvidenceReference)
  | _, [] => .ok []
  | index, m :: ms =>
    match evidenceFromProto m with
    | .error err => .error ("evidence " ++ toString index ++ ": " ++ err)
    | .ok e => (evidencesFromProto (index + 1) ms).map (e :: ·)

def signatureFromProto (m : WireSignature) : Except String Signature := do
  let signedAt ← timestampToTime m.signedAt true "signature.signed_at"
  return {
    keyID := m.keyId
    algorithm := enumName signatureAlgorithms m.algorithm
    value := m.value
    signedAt
    encoding := enumName signatureEncodings m.encoding
    signedContentDigest := digestFromProto m.signedContentDigest
    domain := m.domain }

def noSignature : Signature := ⟨"", "", [], Instant.zero, "", ⟨"", []⟩, ""⟩

/-- `EventFromProto` of a message that is there; `size` is `proto.Size`. -/
def eventFromProto (size : WireEvent → ℕ) (event : WireEvent) : Except String EventEnvelope := do
  if size event > maximumEventWireBytes then
    .error ("event envelope exceeds " ++ toString maximumEventWireBytes ++ " bytes")
  event.rejectUnknownFields
  let observedAt ← timestampToTime event.observedAt true "observed_at"
  let receivedAt ← timestampToTime event.receivedAt false "received_at"
  match event.payload with
  | none => .error "event payload is required"
  | some (typeUrl, payload) =>
    let evidence ← evidencesFromProto 0 event.evidence
    let sourceSignature ← (event.sourceSignature.map signatureFromProto).getD (.ok noSignature)
    return {
      id := event.id
      schemaVersion := event.schemaVersion
      deploymentID := event.deploymentId
      nodeID := event.nodeId
      kind := event.kind
      observedAt, receivedAt
      sequence := event.sequence
      bootID := event.bootId
      classification := evidenceClassFromProto event.classification
      confidence := event.confidence
      sensitivity := sensitivityFromProto event.sensitivity
      payloadTypeURL := typeUrl
      payload
      evidence
      correlationID := event.correlationId
      causationID := event.causationId
      payloadDigest := digestFromProto event.payloadDigest
      sourceSignature }

/-! ## Values that are read back -/

theorem enumName_enumNumber {names : List String} {value : String} (hmem : value ∈ names) :
    enumName names (enumNumber names value) = value := by
  have hpos : 0 < enumNumber names value := by simp [enumNumber, hmem]
  have hindex : enumNumber names value - 1 = names.idxOf value := by simp [enumNumber, hmem]
  rw [enumName, if_neg (by omega), if_pos (by omega), Int.toNat_natCast, hindex, List.getElem?_idxOf hmem]
  rfl

theorem knownNumber_enumNumber (names : List String) (value : String) :
    knownNumber names (enumNumber names value) = true := by
  have hbound : enumNumber names value ≤ names.length := by
    unfold enumNumber
    split
    case isTrue hmem => exact List.idxOf_lt_length_of_mem hmem
    case isFalse => exact Nat.zero_le _
  simp [knownNumber, hbound]

theorem evidenceClassFromProto_classNumber {c : EvidenceClass} (hc : c.valid = true) :
    evidenceClassFromProto (classNumber c) = c ∧ knownNumber evidenceClasses (classNumber c) = true := by
  cases c with
  | unlisted text => cases hc
  | _ => exact ⟨rfl, rfl⟩

theorem sensitivityFromProto_sensitivityNumber {s : Sensitivity} (hs : s.valid = true) :
    sensitivityFromProto (sensitivityNumber s) = s ∧ knownNumber sensitivities (sensitivityNumber s) = true := by
  cases s with
  | unlisted text => cases hs
  | _ => exact ⟨rfl, rfl⟩

theorem locationPrecisionFromProto_enumNumber {value : String} (hmem : value ∈ "" :: locationPrecisions) :
    locationPrecisionFromProto (enumNumber locationPrecisions value) = value := by
  rcases List.mem_cons.mp hmem with rfl | hin
  · rfl
  · have hpos : enumNumber locationPrecisions value ≠ 0 := by simp [enumNumber, hin]
    rw [locationPrecisionFromProto, if_neg (by exact_mod_cast hpos), enumName_enumNumber hin]

theorem digestFromProto_digestToProto (d : IntegrityDigest) : digestFromProto (digestToProto d) = d := by
  obtain ⟨algorithm, digest⟩ := d
  unfold digestToProto
  split
  case isTrue h =>
    simp only at h
    rw [h.1, h.2]
    rfl
  case isFalse => rfl

theorem timestampToTime_timestamp {t : Instant} (h : t.protoValid = true) (required : Bool) (field : String) :
    timestampToTime (some (timestamp t)) required field = .ok t := by
  simp only [timestampToTime, checkValid_timestamp, h, if_true, asTime_timestamp]

theorem present_of_zero {t : Instant} (h : t.isZero = true) : present (some t) = none := by
  rw [present, Option.filter_eq_none_iff]
  rintro s ⟨⟩
  simp [h]

theorem present_of_nonzero {t : Instant} (h : t.isZero = false) : present (some t) = some t :=
  Option.filter_eq_some_iff.mpr ⟨rfl, by simp [h]⟩

theorem timestampToPointer_present {t : Option Instant} (h : ∀ s, t = some s → s.protoValid = true) (field : String) :
    timestampToPointer ((present t).map timestamp) field = .ok (present t) := by
  cases ht : present t with
  | none => rfl
  | some s =>
    obtain ⟨hs, hzero⟩ := Option.filter_eq_some_iff.mp ht
    rw [Option.map_some, timestampToPointer, timestampToTime_timestamp (h s hs)]
    exact congrArg Except.ok (present_of_nonzero (by simpa using hzero))

theorem requiredTimestamp_of_valid {t : Instant} (hzero : t.isZero = false) (h : t.protoValid = true) (field : String) :
    requiredTimestamp t field = .ok (timestamp t) := by
  simp [requiredTimestamp, checkedTimestamp, hzero, h]

theorem optionalTimestamp_of_valid {t : Option Instant} (h : ∀ s, t = some s → s.protoValid = true)
    (field : String) : optionalTimestamp t field = .ok ((present t).map timestamp) := by
  unfold optionalTimestamp
  cases ht : present t with
  | none => rfl
  | some s =>
    have hs := h s (Option.filter_eq_some_iff.mp ht).1
    simp only [checkedTimestamp, hs, if_true]
    rfl

/-! ## Evidence -/

structure Mapped (e : EvidenceReference) : Prop where
  listed : Listed e
  observed : e.observedAt.isZero = false
  observedAt : e.observedAt.protoValid = true
  receivedAt : ∀ s, e.receivedAt = some s → s.protoValid = true
  lastVerifiedAt : ∀ s, e.lastVerifiedAt = some s → s.protoValid = true
  expiresAt : ∀ s, e.expiresAt = some s → s.protoValid = true

theorem protoTime_bind {t : Option Instant} {field : String} (h : t.bind (protoTime · field) = none) :
    ∀ s, t = some s → s.protoValid = true := by
  rintro s rfl
  exact EventEnvelope.assert_eq_none.mp h

theorem mapped_of_validate {e : EvidenceReference} {envelope : Sensitivity} {index : ℕ}
    (h : e.validate envelope index = none) : Mapped e := by
  have hlisted := listed_of_validate h
  rw [EvidenceReference.validate, EventEnvelope.firstError_eq_none] at h
  simp only [List.forall_mem_cons, EventEnvelope.assert_eq_none, Bool.and_eq_true] at h
  obtain ⟨-, -, -, ⟨-, hobserved⟩, -, -, hobservedAt, hreceivedAt, hverifiedAt, hexpiresAt, -⟩ := h
  exact {
    listed := hlisted
    observed := by simpa using hobserved
    observedAt := EventEnvelope.assert_eq_none.mp hobservedAt
    receivedAt := protoTime_bind hreceivedAt
    lastVerifiedAt := protoTime_bind hverifiedAt
    expiresAt := protoTime_bind hexpiresAt }

theorem evidenceToProto_of_mapped {e : EvidenceReference} (h : Mapped e) :
    evidenceToProto e = .ok (evidenceMessage e) := by
  rw [evidenceToProto, requiredTimestamp_of_valid h.observed h.observedAt, optionalTimestamp_of_valid h.receivedAt,
    optionalTimestamp_of_valid h.lastVerifiedAt, optionalTimestamp_of_valid h.expiresAt]
  rfl

theorem evidencesToProto_of_mapped {es : List EvidenceReference} (h : ∀ e ∈ es, Mapped e) (index : ℕ) :
    evidencesToProto index es = .ok (es.map evidenceMessage) := by
  induction es generalizing index with
  | nil => rfl
  | cons e es ih =>
    obtain ⟨he, hes⟩ := List.forall_mem_cons.mp h
    rw [evidencesToProto, evidenceToProto_of_mapped he, ih hes]
    rfl

theorem evidenceFromProto_of_mapped {e : EvidenceReference} (h : Mapped e) :
    evidenceFromProto (some (evidenceMessage e).wire) = .ok (normal e) := by
  have hrole := enumName_enumNumber h.listed.role
  have hclass := (evidenceClassFromProto_classNumber h.listed.classification).1
  have hsource := enumName_enumNumber h.listed.sourceType
  have hsensitivity := (sensitivityFromProto_sensitivityNumber h.listed.sensitivity).1
  have hprecision := locationPrecisionFromProto_enumNumber h.listed.locationPrecision
  simp only [evidenceFromProto, EvidenceMessage.wire, evidenceMessage, timestampToTime_timestamp h.observedAt,
    timestampToPointer_present h.receivedAt, timestampToPointer_present h.lastVerifiedAt,
    timestampToPointer_present h.expiresAt, hrole, hclass, hsource, hsensitivity, hprecision,
    digestFromProto_digestToProto]
  rfl

theorem evidencesFromProto_of_mapped {es : List EvidenceReference} (h : ∀ e ∈ es, Mapped e) (index : ℕ) :
    evidencesFromProto index ((es.map evidenceMessage).map fun m => some m.wire) = .ok (es.map normal) := by
  induction es generalizing index with
  | nil => rfl
  | cons e es ih =>
    obtain ⟨he, hes⟩ := List.forall_mem_cons.mp h
    simp only [List.map_cons, evidencesFromProto, evidenceFromProto_of_mapped he, ih hes]
    rfl

theorem known_of_mapped {e : EvidenceReference} (h : Mapped e) : (evidenceMessage e).wire.known = true := by
  have hclass := (evidenceClassFromProto_classNumber h.listed.classification).2
  have hsensitivity := (sensitivityFromProto_sensitivityNumber h.listed.sensitivity).2
  simp only [WireEvidence.known, EvidenceMessage.wire, evidenceMessage, knownNumber_enumNumber, hclass, hsensitivity,
    Bool.and_self]

theorem present_present (t : Option Instant) : present (present t) = present t := by
  simp [present, Option.filter_filter]

theorem evidenceToProto_normal (e : EvidenceReference) : evidenceToProto (normal e) = evidenceToProto e := by
  simp only [evidenceToProto, optionalTimestamp, normal, present_present]

theorem evidencesToProto_normal (es : List EvidenceReference) (index : ℕ) :
    evidencesToProto index (es.map normal) = evidencesToProto index es := by
  induction es generalizing index with
  | nil => rfl
  | cons e es ih => rw [List.map_cons, evidencesToProto, evidencesToProto, evidenceToProto_normal, ih]

theorem all_present {t : Option Instant} {p : Instant → Bool} (h : t.all p = true) : (present t).all p = true := by
  cases ht : present t with
  | none => rfl
  | some s =>
    rw [(Option.filter_eq_some_iff.mp ht).1] at h
    exact h

theorem bind_present {t : Option Instant} {f : Instant → Option String} (h : t.bind f = none) :
    (present t).bind f = none := by
  cases ht : present t with
  | none => rfl
  | some s =>
    rw [(Option.filter_eq_some_iff.mp ht).1] at h
    exact h

theorem validate_normal {e : EvidenceReference} {envelope : Sensitivity} {index : ℕ}
    (h : e.validate envelope index = none) : (normal e).validate envelope index = none := by
  unfold EvidenceReference.validate at h ⊢
  rw [EventEnvelope.firstError_eq_none] at h ⊢
  simp only [List.forall_mem_cons, normal] at h ⊢
  obtain ⟨hid, hclass, hconfidence, hsource, huri, hprecision, hobserved, hreceived, hverified, hexpires, hintegrity,
    hsensitivity, hexpiry, hverification, hrest⟩ := h
  exact ⟨hid, hclass, hconfidence, hsource, huri, hprecision, hobserved, bind_present hreceived,
    bind_present hverified, bind_present hexpires, hintegrity, hsensitivity,
    EventEnvelope.assert_eq_none.mpr (all_present (EventEnvelope.assert_eq_none.mp hexpiry)),
    EventEnvelope.assert_eq_none.mpr (all_present (EventEnvelope.assert_eq_none.mp hverification)), hrest⟩

/-! ## Events -/

/-- An event whose evidence has no optional times that are zero. -/
def normalEvent (event : EventEnvelope) : EventEnvelope := { event with evidence := event.evidence.map normal }

theorem eventToProto_normalEvent (event : EventEnvelope) : eventToProto (normalEvent event) = eventToProto event := by
  simp only [eventToProto, normalEvent, evidencesToProto_normal]

theorem validateSourceContent_normalEvent {proto : Protobuf} {event : EventEnvelope}
    (h : event.validateSourceContent proto = none) : (normalEvent event).validateSourceContent proto = none := by
  unfold EventEnvelope.validateSourceContent at h ⊢
  rw [EventEnvelope.firstError_eq_none, List.forall_mem_append] at h ⊢
  obtain ⟨hfields, hevidence⟩ := h
  have hlength : (normalEvent event).evidence.length = event.evidence.length := List.length_map _
  refine ⟨hlength ▸ hfields, ?_⟩
  intro check hcheck
  obtain ⟨index, hindex, rfl⟩ := List.mem_mapIdx.mp hcheck
  have hvalid := hevidence _ (List.mem_mapIdx.mpr ⟨index, hlength ▸ hindex, rfl⟩)
  simpa only [normalEvent, List.getElem_map] using validate_normal hvalid

theorem validate_normalEvent {proto : Protobuf} {event : EventEnvelope} (h : event.validate proto = none) :
    (normalEvent event).validate proto = none := by
  have hcontent := EventEnvelope.content_of_validate h
  rw [EventEnvelope.validate, hcontent] at h
  rw [EventEnvelope.validate, validateSourceContent_normalEvent hcontent]
  exact h

/-- What the validation establishes of an event for the mapping. -/
structure Mappable (event : EventEnvelope) : Prop where
  observed : event.observedAt.isZero = false
  observedAt : event.observedAt.protoValid = true
  listed : EventListed event
  evidence : ∀ e ∈ event.evidence, Mapped e
  key : event.sourceSignature.keyID ≠ ""
  algorithm : event.sourceSignature.algorithm ∈ signatureAlgorithms
  encoding : event.sourceSignature.encoding ∈ signatureEncodings
  signed : event.sourceSignature.signedAt.isZero = false

theorem mappable_of_validate {proto : Protobuf} {event : EventEnvelope} (h : event.validate proto = none) :
    Mappable event := by
  have hcontent := EventEnvelope.content_of_validate h
  have hlisted := eventListed_of_content hcontent
  have hkey := keyID_of_validate h
  rw [EventEnvelope.validate, hcontent, Option.map_eq_none_iff, Signature.validate,
    EventEnvelope.firstError_eq_none] at h
  rw [EventEnvelope.validateSourceContent, EventEnvelope.firstError_eq_none, List.forall_mem_append] at hcontent
  obtain ⟨hfields, hevidence⟩ := hcontent
  simp only [List.forall_mem_cons, EventEnvelope.assert_eq_none] at hfields h
  obtain ⟨-, -, -, -, -, hobserved, hobservedAt, -⟩ := hfields
  obtain ⟨-, halgorithm, -, hsigned, hencoding, -⟩ := h
  refine {
    observed := by simpa using hobserved
    observedAt := EventEnvelope.assert_eq_none.mp hobservedAt
    listed := hlisted
    evidence := ?_
    key := hkey
    algorithm := ?_
    encoding := ?_
    signed := by simpa using hsigned }
  · intro e he
    obtain ⟨index, hindex, rfl⟩ := List.mem_iff_getElem.mp he
    exact mapped_of_validate (hevidence _ (List.mem_mapIdx.mpr ⟨index, hindex, rfl⟩))
  · rw [eq_of_beq halgorithm]
    decide
  · rw [eq_of_beq hencoding]
    decide

def signatureMessage (s : Signature) : SignatureMessage where
  keyId := s.keyID
  algorithm := enumNumber signatureAlgorithms s.algorithm
  value := s.value
  signedAt := timestamp s.signedAt
  encoding := enumNumber signatureEncodings s.encoding
  signedContentDigest := digestToProto s.signedContentDigest
  domain := s.domain

def eventMessage (event : EventEnvelope) : EventMessage :=
  { contentMessage event with
    receivedAt := (present (some event.receivedAt)).map timestamp
    sourceSignature := some (signatureMessage event.sourceSignature) }

/-- The times that the mapping asks for and the validation does not. -/
def WireTimes (event : EventEnvelope) : Prop :=
  (event.receivedAt.isZero = true ∨ event.receivedAt.protoValid = true) ∧
    event.sourceSignature.signedAt.protoValid = true

theorem presentSignature_of_mappable {event : EventEnvelope} (h : Mappable event)
    (hsigned : event.sourceSignature.signedAt.protoValid = true) :
    presentSignature event.sourceSignature = .ok (some (signatureMessage event.sourceSignature)) := by
  rw [presentSignature, if_pos (.inl h.key), signatureToProto, requiredTimestamp_of_valid h.signed hsigned]
  rfl

theorem optionalTimestamp_receivedAt {t : Instant} (h : t.isZero = true ∨ t.protoValid = true) (field : String) :
    optionalTimestamp (some t) field = .ok ((present (some t)).map timestamp) := by
  rcases h with hzero | hvalid
  · rw [optionalTimestamp, present_of_zero hzero]
    rfl
  · refine optionalTimestamp_of_valid ?_ field
    rintro s ⟨⟩
    exact hvalid

theorem timestampToTime_receivedAt {t : Instant} (h : t.isZero = true ∨ t.protoValid = true) (field : String) :
    timestampToTime ((present (some t)).map timestamp) false field = .ok t := by
  cases hzero : t.isZero with
  | true =>
    have ht : t = Instant.zero := eq_of_beq hzero
    rw [present_of_zero hzero, ht]
    rfl
  | false =>
    rw [present_of_nonzero hzero, Option.map_some, timestampToTime_timestamp (h.resolve_left (by simp [hzero]))]

theorem eventToProto_of_mappable {event : EventEnvelope} (h : Mappable event) (htimes : WireTimes event) :
    eventToProto event = .ok (eventMessage event) := by
  rw [eventToProto, requiredTimestamp_of_valid h.observed h.observedAt, optionalTimestamp_receivedAt htimes.1,
    evidencesToProto_of_mapped h.evidence, presentSignature_of_mappable h htimes.2]
  rfl

theorem signatureFromProto_of_mappable {event : EventEnvelope} (h : Mappable event)
    (hsigned : event.sourceSignature.signedAt.protoValid = true) :
    signatureFromProto (signatureMessage event.sourceSignature).wire = .ok event.sourceSignature := by
  simp only [signatureFromProto, SignatureMessage.wire, signatureMessage, timestampToTime_timestamp hsigned,
    enumName_enumNumber h.algorithm, enumName_enumNumber h.encoding, digestFromProto_digestToProto]
  rfl

theorem known_of_mappable {event : EventEnvelope} (h : Mappable event) : (eventMessage event).wire.known = true := by
  have hclass := (evidenceClassFromProto_classNumber h.listed.classification).2
  have hsensitivity := (sensitivityFromProto_sensitivityNumber h.listed.sensitivity).2
  have hevidence : ((eventMessage event).wire.evidence.all fun e => e.all WireEvidence.known) = true := by
    refine List.all_eq_true.mpr fun w hw => ?_
    obtain ⟨m, hm, rfl⟩ := List.mem_map.mp hw
    obtain ⟨e, he, rfl⟩ := List.mem_map.mp hm
    exact known_of_mapped (h.evidence e he)
  have hsignature : (signatureMessage event.sourceSignature).wire.known = true := by
    simp only [WireSignature.known, SignatureMessage.wire, signatureMessage, knownNumber_enumNumber, Bool.and_self]
  rw [WireEvent.known, hevidence, Bool.and_true]
  simp only [Bool.and_eq_true]
  exact ⟨⟨hclass, hsensitivity⟩, hsignature⟩

theorem eventFromProto_of_mappable {size : WireEvent → ℕ} {event : EventEnvelope} (h : Mappable event)
    (htimes : WireTimes event) (hsize : size (eventMessage event).wire ≤ maximumEventWireBytes) :
    eventFromProto size (eventMessage event).wire = .ok (normalEvent event) := by
  have hclass := (evidenceClassFromProto_classNumber h.listed.classification).1
  have hsensitivity := (sensitivityFromProto_sensitivityNumber h.listed.sensitivity).1
  have hknown : (eventMessage event).wire.rejectUnknownFields = .ok () := by
    rw [WireEvent.rejectUnknownFields, known_of_mappable h]
    rfl
  rw [eventFromProto, if_neg hsize.not_gt, hknown]
  simp only [eventMessage, contentMessage, EventMessage.wire, Option.map_some, Option.getD_some,
    timestampToTime_timestamp h.observedAt, timestampToTime_receivedAt htimes.1, evidencesFromProto_of_mapped h.evidence,
    signatureFromProto_of_mappable h htimes.2, hclass, hsensitivity, digestFromProto_digestToProto]
  rfl

theorem wireTimes_of_eventToProto {event : EventEnvelope} {m : EventMessage} (hmap : Mappable event)
    (h : eventToProto event = .ok m) : WireTimes event := by
  refine ⟨?_, signedAt_of_eventToProto h hmap.key⟩
  obtain ⟨observedAt, -, h⟩ := bind_eq_ok.mp h
  obtain ⟨receivedAt, hreceived, -⟩ := bind_eq_ok.mp h
  cases hzero : event.receivedAt.isZero with
  | true => exact .inl rfl
  | false =>
    rw [optionalTimestamp, present_of_nonzero hzero] at hreceived
    simp only [checkedTimestamp] at hreceived
    split at hreceived
    case isTrue hvalid => exact .inr hvalid
    case isFalse => cases hreceived

theorem verifySource_normalEvent (scheme : Scheme) {proto : Protobuf} (marshal : EventMessage → Option (List UInt8))
    {event : EventEnvelope} (h : event.validate proto = none) (publicKey : List UInt8) :
    verifySource scheme proto marshal (normalEvent event) publicKey = verifySource scheme proto marshal event publicKey := by
  have hdigest : signingDigest marshal (normalEvent event) = signingDigest marshal event := by
    rw [signingDigest, signingEncoding, eventToProto_normalEvent]
    rfl
  rw [verifySource, verifySource, validate_normalEvent h, h, hdigest]
  rfl

/-- A valid event that fits the limit of the wire is written and read back as it was, valid and with the
signatures it had, just where its time of receipt, if it has one, and its time of signing are times of
the wire contract. -/
theorem wire_roundTrip_iff (scheme : Scheme) (proto : Protobuf) (marshal : EventMessage → Option (List UInt8))
    (size : WireEvent → ℕ) {event : EventEnvelope} (hvalid : event.validate proto = none)
    (hsize : ∀ m, eventToProto event = .ok m → size m.wire ≤ maximumEventWireBytes) :
    (∃ m event', eventToProto event = .ok m ∧ eventFromProto size m.wire = .ok event' ∧ event' = normalEvent event ∧
      event'.validate proto = none ∧ ∀ publicKey, verifySource scheme proto marshal event' publicKey = none ↔
        verifySource scheme proto marshal event publicKey = none) ↔
    (event.receivedAt.isZero = true ∨ event.receivedAt.protoValid = true) ∧
      event.sourceSignature.signedAt.protoValid = true := by
  have hmap := mappable_of_validate hvalid
  constructor
  · rintro ⟨m, event', hto, -⟩
    exact wireTimes_of_eventToProto hmap hto
  · intro htimes
    have hto := eventToProto_of_mappable hmap htimes
    refine ⟨eventMessage event, normalEvent event, hto, eventFromProto_of_mappable hmap htimes (hsize _ hto), rfl,
      validate_normalEvent hvalid, fun publicKey => ?_⟩
    rw [verifySource_normalEvent scheme marshal hvalid]

/-- A valid event that was received when the years of the wire contract are over cannot be written. -/
theorem late_receipt_not_written :
    ({ signedPlain "n" with receivedAt := Instant.endOfYears }).validate plainProto = none ∧
    eventToProto { signedPlain "n" with receivedAt := Instant.endOfYears } =
      .error "received_at: timestamp out of range" := by
  decide +kernel

theorem wire_roundTrip_iff_plain : ∃ m event', eventToProto (signedPlain "n") = .ok m ∧
    eventFromProto (fun _ => 0) m.wire = .ok event' ∧ event' = normalEvent (signedPlain "n") ∧
    event'.validate plainProto = none ∧ ∀ publicKey, verifySource plainScheme plainProto plainMarshal event' publicKey =
      none ↔ verifySource plainScheme plainProto plainMarshal (signedPlain "n") publicKey = none :=
  (wire_roundTrip_iff plainScheme plainProto plainMarshal (fun _ => 0) (by decide +kernel)
    fun _ _ => Nat.zero_le _).mpr (by decide +kernel)

end AntiFlock.Events
