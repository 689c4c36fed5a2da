import AntiFlock.Events.Message
import AntiFlock.Go.Framing

set_option autoImplicit false

/-!
# Signed events

An event is signed over a list of length-prefixed fields: the protocol, the
domain, the algorithm, the digest of the event's content and the time of signing.
The key id is not among them. A node's key also signs the results of plans, its
enrollment, its capability manifest and the handshakes of its connections; none
of these texts is that of an event.
-/
namespace AntiFlock.Events
open AntiFlock.Go AntiFlock.Storage

def signatureProtocol : String := "AntiFlock-Signature-v1"

def eventDomain : String := "antiflock.event.v1"

/-- What the code asks of Ed25519. Keys are byte strings. -/
structure Scheme where
  sign : List UInt8 → List UInt8 → List UInt8
  verify : List UInt8 → List UInt8 → List UInt8 → Bool
  publicKey : List UInt8 → List UInt8

def privateKeySize : ℕ := 64

def publicKeySize : ℕ := 32

/-- `Unix` as an unsigned word. -/
def unixWord (t : ℤ) : ℕ := (t / Instant.perSecond % 2 ^ 64).toNat

def nanosecond (t : ℤ) : ℕ := (t % Instant.perSecond).toNat

/-- The fields that are signed; the number of the algorithm is that of Ed25519. -/
def signatureFields (domain : String) (digest : List UInt8) (signedAt : Instant) : List (List UInt8) :=
  [bytes signatureProtocol, bytes domain, Sha256.beBytes 4 1, bytes "sha256", digest,
    Sha256.beBytes 8 (unixWord signedAt), Sha256.beBytes 4 (nanosecond signedAt)]

def signatureInput (s : Signature) : Except String (List UInt8) :=
  if s.algorithm ≠ "ED25519" ∨ s.encoding ≠ "PROTOBUF_DETERMINISTIC_V1" ∨ s.domain ≠ eventDomain then
    .error "unsupported event signature profile"
  else if s.signedContentDigest.algorithm ≠ "sha256" ∨ s.signedContentDigest.digest.length ≠ 32 then
    .error "unsupported event signature digest"
  else if s.signedAt.isZero then .error "event signature time is required"
  else .ok (lengthPrefixed (signatureFields s.domain s.signedContentDigest.digest s.signedAt))

section Sign
variable (scheme : Scheme) (proto : Protobuf) (marshal : EventMessage → Option (List UInt8))

/-- The bytes of an event's content that are hashed. A message built by the mapping has no unknown
fields. -/
def signingEncoding (event : EventEnvelope) : Except String (List UInt8) :=
  match eventToProto event with
  | .error err => .error err
  | .ok wire =>
    match marshal { wire with receivedAt := none, sourceSignature := none } with
    | none => .error "deterministically encode signable event"
    | some encoded => .ok encoded

def signingDigest (event : EventEnvelope) : Except String (List UInt8) :=
  (signingEncoding marshal event).map Sha256.sum256

def digested (event : EventEnvelope) : EventEnvelope :=
  { event with payloadDigest := ⟨"sha256", Sha256.sum256 event.payload⟩ }

def unsigned (keyID : String) (signedAt : Instant) (digest : List UInt8) : Signature :=
  ⟨keyID, "ED25519", [], signedAt, "PROTOBUF_DETERMINISTIC_V1", ⟨"sha256", digest⟩, eventDomain⟩

/-- The checks of `SignAt` on its arguments. -/
def checkSigning (keyID : String) (privateKey : List UInt8) (signedAt : Instant) : Option String :=
  if privateKey.length ≠ privateKeySize then some "event signing key must be Ed25519"
  else if keyID = "" then some "event signing key id is required"
  else if signedAt.isZero then some "event signed time is required"
  else none

/-- `SignAt` on an event that carries its payload digest, up to the bytes that are signed. -/
def prepare (event : EventEnvelope) (keyID : String) (signedAt : Instant) :
    Except String (Signature × List UInt8) :=
  match event.validateSourceContent proto with
  | some err => .error err
  | none =>
    match signingDigest marshal event with
    | .error err => .error err
    | .ok digest => (signatureInput (unsigned keyID signedAt digest)).map (unsigned keyID signedAt digest, ·)

def verifySource (event : EventEnvelope) (publicKey : List UInt8) : Option String :=
  if publicKey.length ≠ publicKeySize then some "enrolled event key is not Ed25519"
  else
    match event.validate proto with
    | some err => some err
    | none =>
      if event.sourceSignature.keyID ≠ event.nodeID then some "event signature key id does not match node id"
      else
        match signingDigest marshal event with
        | .error err => some err
        | .ok digest =>
          if digest ≠ event.sourceSignature.signedContentDigest.digest then
            some "event signed-content digest mismatch"
          else
            match signatureInput event.sourceSignature with
            | .error err => some err
            | .ok input =>
              if scheme.verify publicKey input event.sourceSignature.value then none
              else some "event source signature verification failed"

/-! ## The uses of a node's key -/

/-- A call of `SignAt`. The seconds of a `time.Time` are an `int64`. -/
structure SignCall where
  event : EventEnvelope
  keyID : String
  signedAt : Instant
  seconds : -2 ^ 63 ≤ signedAt / Instant.perSecond ∧ signedAt / Instant.perSecond < 2 ^ 63

inductive KeyUse where
  | event (call : SignCall)
  /-- `SignExecutionResult`. -/
  | result (content : List UInt8) (signedAt : Instant)
  /-- The proof of possession of an enrollment. -/
  | enrollment (preimage : List UInt8)
  | manifest (content : List UInt8)
  /-- A handshake, whose text starts with a message type or with spaces. -/
  | handshake (first : UInt8) (nonzero : first ≠ 0) (rest : List UInt8)

def resultSignatureDomain : String := "antiflock.plan-result.v1"

def manifestSignatureDomain : String := "AntiFlock-CapabilityManifest-v1"

/-- The text that a use signs with a key, if it comes to it. -/
def KeyUse.message (privateKey : List UInt8) : KeyUse → Option (List UInt8)
  | .event call =>
    match checkSigning call.keyID privateKey call.signedAt,
        prepare proto marshal (digested call.event) call.keyID call.signedAt with
    | none, .ok (_, input) => some input
    | _, _ => none
  | .result content signedAt =>
    some (lengthPrefixed (signatureFields resultSignatureDomain (Sha256.sum256 content) signedAt))
  | .enrollment preimage => some (Sha256.sum256 preimage)
  | .manifest content => some (bytes manifestSignatureDomain ++ Sha256.sum256 content)
  | .handshake first _ rest => some (first :: rest)

end Sign

/-! ## What a signature covers -/

def eventInput (digest : List UInt8) (signedAt : Instant) : List UInt8 :=
  lengthPrefixed (signatureFields eventDomain digest signedAt)

/-- A time whose seconds are an `int64`. -/
def InSeconds (t : ℤ) : Prop := -2 ^ 63 ≤ t / Instant.perSecond ∧ t / Instant.perSecond < 2 ^ 63

section Uses
variable {scheme : Scheme} {proto : Protobuf} {marshal : EventMessage → Option (List UInt8)}

end Uses
end AntiFlock.Events
