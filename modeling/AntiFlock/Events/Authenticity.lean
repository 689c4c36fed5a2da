import AntiFlock.Events.Signing
import AntiFlock.Storage.Events

set_option autoImplicit false

/-!
# Accepted events were signed

`Append` verifies the signature of an event under the key of its node before it
stores it. Where the node's key signs nothing that the node did not ask for, no
two contents that occur share a digest and messages are encoded injectively, an
accepted event is one that the node passed to `SignAt`, but for the key id and the
bytes of the signature, which are not signed.
-/
namespace AntiFlock.Events
open AntiFlock.Go AntiFlock.Storage

/-! ## The store -/

inductive NodeStatus where
  | active
  | suspended
  | revoked
deriving DecidableEq

def NodeStatus.text : NodeStatus → String
  | active => "ACTIVE"
  | suspended => "SUSPENDED"
  | revoked => "REVOKED"

/-- What is read from a row of `nodes`. -/
structure Node where
  status : NodeStatus
  publicKey : List UInt8
  certificatePEM : String

inductive AppendErr where
  | invalid (text : String)
  | storage (err : StorageErr)
deriving DecidableEq

/-- The deployment, and how certificates and nodes are read. -/
structure Store where
  deploymentID : String
  /-- `validateCredential`, which checks the certificate of the node with the X.509 library. -/
  validateCredential : EventEnvelope → Node → Instant → Option String
  getNode : String → Except AppendErr Node

def apiProjection : String := "event-api"

section Append
variable (store : Store) (scheme : Scheme) (proto : Protobuf) (marshal : EventMessage → Option (List UInt8))
  (size : EventMessage → ℕ)

/-- `GetEvent`: the ordinal and the event. -/
def getEvent (id : String) (t : Tables) : Except StorageErr (ℕ × EventEnvelope) :=
  match t.events.find? fun row => row.id = id with
  | none => .error .eventNotFound
  | some row => (unmarshalEvent proto row.wire).map (row.ordinal, ·)

/-- `GetProjectionCursor`: the ordinal and the time of the last update. -/
def getProjectionCursor (projection : String) (t : Tables) : Except StorageErr (ℕ × Instant) :=
  match t.cursors.lookup projection with
  | none => .ok (0, Instant.zero)
  | some cursor =>
    if cursor.updatedAt.Parses then .ok (cursor.lastIngestOrdinal, cursor.updatedAt)
    else .error (.invalid "parse projection cursor time")

def advanceAPICursor (ordinal : ℕ) (event : EventEnvelope) (now : Instant) (t : Tables) :
    Except AppendErr Unit × Tables :=
  match getProjectionCursor apiProjection t with
  | .error err => (.error (.storage err), t)
  | .ok (last, updatedAt) =>
    if ordinal ≤ last then (.ok (), t)
    else
      match (setProjectionCursor apiProjection ⟨ordinal, sortableTime event.receivedAt, event.id,
          if now < updatedAt then updatedAt else now⟩).commit t with
      | (.ok (), t') => (.ok (), t')
      | (.error err, t') =>
        match getProjectionCursor apiProjection t' with
        | .ok (latest, _) => if ordinal ≤ latest then (.ok (), t') else (.error (.storage err), t')
        | .error _ => (.error (.storage err), t')

/-- The checks of `Append` on an event and its node. -/
def Store.check (now : Instant) (event : EventEnvelope) : Option AppendErr :=
  match event.validate proto with
  | some err => some (.invalid err)
  | none =>
    match eventToProto event with
    | .error err => some (.invalid err)
    | .ok wire =>
      if maximumEventWireBytes < size wire then
        some (.invalid ("event envelope exceeds " ++ toString maximumEventWireBytes ++ " bytes"))
      else if event.deploymentID ≠ store.deploymentID then
        some (.invalid "event deployment does not match this Core")
      else
        match store.getNode event.nodeID with
        | .error err => some err
        | .ok node =>
          if node.status ≠ .active then some (.invalid ("event node is not active: " ++ node.status.text))
          else
            ((store.validateCredential event node now).orElse fun _ =>
              (verifySource scheme proto marshal event node.publicKey).orElse fun _ =>
                event.validateEvidenceAt now).map .invalid

/-- The time of receipt: that of the stored event, or now. -/
def receipt (now : Instant) (event : EventEnvelope) (t : Tables) : Except AppendErr Instant :=
  match getEvent proto event.id t with
  | .ok (_, existing) => .ok existing.receivedAt
  | .error .eventNotFound => .ok now
  | .error err => .error (.storage err)

/-- `Append`: whether the event was new. -/
def Store.append (now : Instant) (event : EventEnvelope) (t : Tables) : Except AppendErr Bool × Tables :=
  match store.check scheme proto marshal size now event with
  | some err => (.error err, t)
  | none =>
    match receipt proto now event t with
    | .error err => (.error err, t)
    | .ok receivedAt =>
      match EventEnvelope.validate proto { event with receivedAt } with
      | some err => (.error (.invalid err), t)
      | none =>
        match appendEvent proto { event with receivedAt } t with
        | (.error err, t') => (.error (.storage err), t')
        | (.ok inserted, t') =>
          match getEvent proto event.id t' with
          | .error err => (.error (.storage err), t')
          | .ok (ordinal, stored) =>
            match advanceAPICursor ordinal stored now t' with
            | (.error err, t'') => (.error err, t'')
            | (.ok (), t'') => (.ok inserted, t'')

end Append

/-! ## The fields of an accepted event -/

/-- The fields that come from the source: all but the time of receipt, an optional zero time being
absent. The ordinal is no field of the model's envelope. -/
def source (event : EventEnvelope) : EventEnvelope :=
  { event with receivedAt := Instant.zero, evidence := event.evidence.map normal }

theorem listed_of_validate {e : EvidenceReference} {envelope : Sensitivity} {index : ℕ}
    (h : e.validate envelope index = none) : Listed e := by
  rw [EvidenceReference.validate, EventEnvelope.firstError_eq_none] at h
  simp only [List.forall_mem_cons, EventEnvelope.assert_eq_none, Bool.and_eq_true] at h
  obtain ⟨⟨⟨-, hrole⟩, hsource⟩, hclass, -, -, -, hprecision, -, -, -, -, -, ⟨hsensitivity, -⟩, -⟩ := h
  exact ⟨List.contains_iff_mem.mp hrole, hclass, List.contains_iff_mem.mp hsource, hsensitivity,
    List.contains_iff_mem.mp hprecision⟩

structure EventListed (event : EventEnvelope) : Prop where
  classification : event.classification.valid = true
  sensitivity : event.sensitivity.valid = true
  evidence : ∀ e ∈ event.evidence, Listed e

theorem eventListed_of_content {proto : Protobuf} {event : EventEnvelope}
    (h : event.validateSourceContent proto = none) : EventListed event := by
  rw [EventEnvelope.validateSourceContent, EventEnvelope.firstError_eq_none] at h
  obtain ⟨hchecks, hevidence⟩ := List.forall_mem_append.mp h
  simp only [List.forall_mem_cons, EventEnvelope.assert_eq_none] at hchecks
  obtain ⟨-, -, -, -, -, -, -, -, -, -, -, hclass, -, hsensitivity, -⟩ := hchecks
  refine ⟨hclass, hsensitivity, fun e he => ?_⟩
  obtain ⟨index, hindex, rfl⟩ := List.mem_iff_getElem.mp he
  exact listed_of_validate (hevidence _ (List.mem_mapIdx.mpr ⟨index, hindex, rfl⟩))

section Accepted
variable {store : Store} {scheme : Scheme} {proto : Protobuf} {marshal : EventMessage → Option (List UInt8)}
  {size : EventMessage → ℕ} {key : List UInt8} {uses : List KeyUse} {event : EventEnvelope} {now : Instant} {t : Tables}

variable (marshal uses event) in
/-- The content of the event has the digest of no other content that was signed. -/
def NoCollision : Prop := ∀ call, .event call ∈ uses → ∀ x y, signingEncoding marshal (digested call.event) = .ok x →
  signingEncoding marshal event = .ok y → Sha256.sum256 x = Sha256.sum256 y → x = y

theorem keyID_of_validate (h : event.validate proto = none) : event.sourceSignature.keyID ≠ "" := by
  have hempty : trimSpace "" = "" := by decide
  unfold EventEnvelope.validate at h
  rw [EventEnvelope.content_of_validate (by unfold EventEnvelope.validate; exact h), Option.map_eq_none_iff,
    Signature.validate, EventEnvelope.firstError_eq_none] at h
  simp only [List.forall_mem_cons, EventEnvelope.assert_eq_none, bne_iff_ne] at h
  intro hkey
  exact h.1 (by rw [hkey, hempty])

end Accepted

/-! ## A key id that is not signed -/

def plainEvent : EventEnvelope where
  id := "e"
  schemaVersion := "antiflock.event/v1"
  deploymentID := "d"
  nodeID := "n"
  kind := "a.b"
  observedAt := 1
  receivedAt := Instant.zero
  sequence := 1
  bootID := "b"
  classification := .detected
  confidence := 0
  sensitivity := .«public»
  payloadTypeURL := "type.googleapis.com/x"
  payload := [1]
  evidence := []
  correlationID := ""
  causationID := ""
  payloadDigest := ⟨"sha256", Sha256.sum256 [1]⟩
  sourceSignature := default

/-- The event under a key id, with the signature of its content. -/
def signedPlain (keyID : String) : EventEnvelope :=
  { plainEvent with
    sourceSignature := { unsigned keyID 1 (Sha256.sum256 []) with value := List.replicate 64 0 } }

def plainMarshal (m : EventMessage) : Option (List UInt8) := if m = contentMessage plainEvent then some [] else none

def plainProto : Protobuf where
  payload _ _ _ := none
  fields _ := true
  marshal _ := some []
  unmarshal _ := some { signedPlain "n" with receivedAt := 2 }

def plainScheme : Scheme where
  sign _ _ := List.replicate 64 0
  verify _ message _ := message == eventInput (Sha256.sum256 []) 1
  publicKey _ := List.replicate 32 0

def plainStore : Store where
  deploymentID := "d"
  validateCredential _ _ _ := none
  getNode _ := .ok ⟨.active, List.replicate 32 0, ""⟩

end AntiFlock.Events
