import AntiFlock.Actions.Gate
import AntiFlock.Audit.Service
import AntiFlock.Effect.Pool
import AntiFlock.Enrollment.Tables
import AntiFlock.Go.Framing
import AntiFlock.Go.Hmac
import AntiFlock.Proto.Capabilities

set_option autoImplicit false

/-!
# The enrollment service

A node presents a token together with a signed request, an operator approves or
denies the request. The calls run side by side on one database. What a call has
read is outdated when it writes; what it may write is decided by the transactions.
-/
namespace AntiFlock.Enrollment
open AntiFlock.Go AntiFlock.Go.Calendar AntiFlock.Effect AntiFlock.Sql AntiFlock.Proto
open AntiFlock.Actions (stringArray)
open AntiFlock.Audit (AppendRequest)
open AntiFlock.Events (Timestamp timestamp asTime checkValid)
open AntiFlock.Server (NodeStatus)

/-! ## Messages -/

def NodeType.text : NodeType → String
  | unspecified => "NODE_TYPE_UNSPECIFIED"
  | desktop => "NODE_TYPE_DESKTOP"
  | laptop => "NODE_TYPE_LAPTOP"
  | phone => "NODE_TYPE_PHONE"
  | tablet => "NODE_TYPE_TABLET"
  | server => "NODE_TYPE_SERVER"
  | gateway => "NODE_TYPE_GATEWAY"
  | router => "NODE_TYPE_ROUTER"
  | agent => "NODE_TYPE_AGENT"
  | unlisted number => toString number

def NodeType.known : NodeType → Bool
  | unlisted _ => false
  | _ => true

structure TokenScope where
  allowedNodeType : NodeType
  approvedTags : List String
deriving DecidableEq

/-- `Token`, which is shown to its operator once. -/
structure Token where
  id : String
  tokenValue : String
  scope : TokenScope
  expiresAt : Instant

/-- What is kept of a token's scope. Its status is pending. -/
structure EnrollmentTokenDescriptor where
  id : String
  createdAt : Timestamp
  expiresAt : Timestamp
  createdByPrincipalId : String
  allowedNodeType : NodeType
  allowedTags : List String
deriving DecidableEq

structure EnrollNodeRequest where
  tokenValue : String
  requestId : String
  displayName : String
  nodeType : NodeType
  platform : String
  platformVersion : String
  keyAlgorithm : String
  publicKey : List UInt8
  proofOfPossession : List UInt8
  certificateSigningRequestDer : List UInt8
  capabilities : Option CapabilityManifest
  requestedNodeId : String

/-- The message `EnrollmentRequest`. -/
structure EnrollmentView where
  id : String
  tokenId : String
  status : RequestStatus
  proposedNodeId : String
  displayName : String
  nodeType : NodeType
  publicKey : List UInt8
  capabilities : CapabilityManifest
  requestedAt : Timestamp
  expiresAt : Timestamp
  decisionReasonCode : String

structure ApproveEnrollmentRequest where
  enrollmentId : String
  operationId : String
  reasonCode : String
  approvedTags : List String

structure DenyEnrollmentRequest where
  enrollmentId : String
  operationId : String
  reasonCode : String

/-- What `x509.ParseCertificateRequest` finds, with the numbers of the names and extensions. -/
structure CertificateRequest where
  signed : Bool
  /-- The key, if it is an Ed25519 key. -/
  publicKey : Option (List UInt8)
  dnsNames : ℕ
  ipAddresses : ℕ
  uris : ℕ
  emailAddresses : ℕ
  extensions : ℕ
  extraExtensions : ℕ

/-! ## What the service relies on -/

/-- The code that the service calls: the codecs of messages, signatures, certificate requests. -/
structure Library (J : Type) where
  marshalDescriptor : EnrollmentTokenDescriptor → Option J
  unmarshalDescriptor : J → Option EnrollmentTokenDescriptor
  unmarshal_descriptor : ∀ descriptor text, marshalDescriptor descriptor = some text →
    unmarshalDescriptor text = some descriptor
  marshalCapabilities : CapabilityManifest → Option J
  unmarshalCapabilities : J → Option CapabilityManifest
  unmarshal_capabilities : ∀ manifest text, marshalCapabilities manifest = some text →
    unmarshalCapabilities text = some manifest
  /-- `proto.Size`. -/
  size : EnrollNodeRequest → ℕ
  /-- The error of `RejectUnknownFields`. -/
  rejectUnknownFields : EnrollNodeRequest → Option String
  /-- The manifest itself has fields that are unknown. -/
  unknownManifest : CapabilityManifest → Bool
  /-- The error of `rejectUnknown` for a request without its proof. -/
  rejectUnknown : EnrollNodeRequest → Option String
  /-- The deterministic encoding of a request. -/
  marshal : EnrollNodeRequest → Option (List UInt8)
  /-- `ed25519.Verify`. -/
  verify : List UInt8 → List UInt8 → List UInt8 → Bool
  parseCertificateRequest : List UInt8 → Option CertificateRequest
  /-- The text of a string under `%q`. -/
  quote : String → String

/-- The service, with what it takes from the authority of its deployment. -/
structure Service where
  tokenTTL : ℤ
  deploymentID : String
  operatorID : String
  deriveEnrollmentToken : String → String → Except String (List UInt8)

/-! ## Checks -/

section Checks
variable {J : Type} (lib : Library J)

def validBoundedText (value : String) (maximum : ℕ) : Bool :=
  !(value == "" || maximum < len value) && value.toList.all (fun c => !(c.toNat < 0x20 || c.toNat == 0x7f)) &&
    trimSpace value == value

/-- The loop over the tags of a scope, with the tags it has seen and their length. -/
def validateTags : List String → ℕ → List String → Except EnrollErr Unit
  | _, _, [] => .ok ()
  | seen, total, tag :: tags =>
    if !validBoundedText tag 64 || containsAny tag " \t\r\n" then
      .error (.text "approved enrollment tags must be bounded non-whitespace values")
    else if 2048 < total + len tag then .error (.text "approved enrollment tags exceed 2048 bytes")
    else if tag ∈ seen then .error (.text ("approved enrollment tag " ++ lib.quote tag ++ " is duplicated"))
    else validateTags (tag :: seen) (total + len tag) tags

def TokenScope.validate (scope : TokenScope) : Except EnrollErr Unit :=
  if !scope.allowedNodeType.known || scope.allowedNodeType = .unspecified then
    .error (.text "enrollment scope requires an allowed node type")
  else if 32 < scope.approvedTags.length then .error (.text "enrollment scope exceeds 32 approved tags")
  else validateTags lib [] 0 scope.approvedTags

def enrollmentTokenPrefix : String := "af_enroll_v1."

def parseToken (value : String) : Except EnrollErr (List UInt8) :=
  if !hasPrefix value enrollmentTokenPrefix then .error (.text "enrollment token has an invalid version prefix")
  else
    let encoded := String.ofList (value.toList.drop enrollmentTokenPrefix.length)
    match decodeRawURLBase64 encoded with
    | some raw =>
      if raw.length ≠ 64 ∨ rawURLBase64 raw ≠ encoded then
        .error (.text "enrollment token must contain canonical unpadded base64url for 64 bytes")
      else .ok raw
    | none => .error (.text "enrollment token must contain canonical unpadded base64url for 64 bytes")

def tokenDigest (raw : List UInt8) : List UInt8 :=
  Sha256.sum256 (bytes "AntiFlock-Enrollment-Token-v1" ++ 0 :: raw)

def protoTime (value : Option Timestamp) : Option Instant :=
  match value with
  | none => none
  | some t => if checkValid t then some (asTime (some t)) else none

def fiveMinutes : ℤ := 5 * minute

/-- The loop over the capabilities of a manifest, with the keys it has seen. -/
def validateCapability (now : Instant) : List String → List Capability → Except EnrollErr Unit
  | _, [] => .ok ()
  | seen, capability :: rest =>
    if !validBoundedText capability.key 128 || !capability.key.toList.contains '.' || capability.domain = .unspecified ||
        capability.supportLevel = .unspecified || capability.operations.isEmpty then
      .error (.text "capability entries require a namespaced key, domain, operation, and support level")
    else if capability.key ∈ seen then
      .error (.text ("capability key " ++ lib.quote capability.key ++ " is duplicated"))
    else if capability.operations.contains .unspecified then
      .error (.text ("capability " ++ lib.quote capability.key ++ " contains an unspecified operation"))
    else if capability.observedAt.isSome ∧
        (protoTime capability.observedAt).all (fun observedAt => now.add fiveMinutes < observedAt) then
      .error (.text ("capability " ++ lib.quote capability.key ++ " observed_at is invalid"))
    else validateCapability now (capability.key :: seen) rest

def validateCapabilities (manifest : CapabilityManifest) (now : Instant) : Except EnrollErr Unit :=
  if lib.unknownManifest manifest then .error (.text "capability manifest contains unknown protobuf fields")
  else if manifest.nodeId ≠ "" ∨ manifest.signature.isSome then
    .error (.text "initial enrollment capabilities must have empty node_id and signature and are recorded as CLAIMED")
  else if manifest.revision = 0 ∨ manifest.capabilities = [] then
    .error (.text "capability manifest requires a positive revision and at least one capability")
  else match protoTime manifest.issuedAt with
    | none => .error (.text "capability issued_at is invalid or exceeds allowed clock skew")
    | some issuedAt =>
      if now.add fiveMinutes < issuedAt then
        .error (.text "capability issued_at is invalid or exceeds allowed clock skew")
      else match protoTime manifest.expiresAt with
        | none => .error (.text "capability expires_at must be after issuance and current time")
        | some expiresAt =>
          if ¬ now < expiresAt ∨ ¬ issuedAt < expiresAt then
            .error (.text "capability expires_at must be after issuance and current time")
          else validateCapability lib now [] manifest.capabilities

def platforms : List String := ["linux", "android", "windows", "darwin", "ios", "router"]

/-- What is checked of a request before its capabilities; none of it depends on the time. -/
def validateForm (request : EnrollNodeRequest) : Except EnrollErr CapabilityManifest :=
  if 256 * 1024 < lib.size request then .error (.text "enrollment request exceeds the size limit")
  else match lib.rejectUnknownFields request with
    | some message => .error (.text ("enrollment request: " ++ message))
    | none =>
      match parseToken request.tokenValue with
      | .error err => .error err
      | .ok _ =>
        if !validBoundedText request.requestId 128 || !validBoundedText request.displayName 128 then
          .error (.text "request id and display name are required bounded UTF-8 values")
        else if !request.nodeType.known || request.nodeType = .unspecified then .error (.text "node type is required")
        else if !validBoundedText request.platform 32 || !validBoundedText request.platformVersion 128 then
          .error (.text "platform and platform version are required bounded UTF-8 values")
        else if request.platform ∉ platforms then
          .error (.text ("unsupported node platform " ++ lib.quote request.platform))
        else if request.keyAlgorithm ≠ "ed25519" then .error (.text "key_algorithm must be exact lowercase ed25519")
        else if request.publicKey.length ≠ 32 ∨ request.proofOfPossession.length ≠ 64 then
          .error (.text "enrollment requires a 32-byte Ed25519 public key and 64-byte proof")
        else match request.capabilities with
          | none => .error (.text "capability manifest is required")
          | some manifest => .ok manifest

def validateRequest (request : EnrollNodeRequest) (now : Instant) : Except EnrollErr Unit :=
  match validateForm lib request with
  | .error err => .error err
  | .ok manifest => validateCapabilities lib manifest now

/-- The scan of a node id, with whether the last character was a delimiter. -/
def scanNodeID : Bool → Bool → List UInt8 → Except EnrollErr Bool
  | _, previousDelimiter, [] => .ok previousDelimiter
  | first, previousDelimiter, b :: rest =>
    let delimiter := b.toNat = '_'.toNat ∨ b.toNat = '-'.toNat
    if between 'a' 'z' b ∨ (!first ∧ between '0' '9' b) ∨ (!first ∧ delimiter ∧ !previousDelimiter) then
      scanNodeID false (decide delimiter) rest
    else .error (.text ("requested_node_id must use lowercase ASCII letters, digits, underscores, or hyphens and " ++
      "begin with a letter"))

def reservedNodeIDs : List String :=
  ["all", "core", "local", "operator", "system", "unknown", "unavailable", "node_all", "node_core", "node_local",
    "node_operator", "node_system", "node_unknown", "node_unavailable"]

def validateRequestedNodeID (nodeID deploymentID operatorID : String) : Except EnrollErr Unit :=
  if nodeID = "" then .ok ()
  else if len nodeID < 8 ∨ 128 < len nodeID ∨ nodeID = deploymentID ∨ nodeID = operatorID then
    .error (.text "requested_node_id is not an available canonical node identity")
  else match scanNodeID true false (bytes nodeID) with
    | .error err => .error err
    | .ok true => .error (.text "requested_node_id must not end with a delimiter")
    | .ok false => if nodeID ∈ reservedNodeIDs then .error (.text "requested_node_id is reserved") else .ok ()

def proofMessage (request : EnrollNodeRequest) : Except EnrollErr (List UInt8) :=
  let clone := { request with proofOfPossession := [] }
  match lib.rejectUnknown clone with
  | some message => .error (.text message)
  | none =>
    match lib.marshal clone with
    | none => .error (.text "encode enrollment proof transcript")
    | some encoded => .ok (Sha256.sum256 (lengthPrefixed [bytes "AntiFlock-Enrollment-PoP-v1", encoded]))

def validateCSR (request : EnrollNodeRequest) : Except EnrollErr Unit :=
  if request.certificateSigningRequestDer = [] then .ok ()
  else match lib.parseCertificateRequest request.certificateSigningRequestDer with
    | none => .error (.text "certificate signing request is invalid")
    | some csr =>
      if !csr.signed then .error (.text "certificate signing request is invalid")
      else if csr.publicKey ≠ some request.publicKey then
        .error (.text "certificate signing request key does not match public_key")
      else if csr.dnsNames ≠ 0 ∨ csr.ipAddresses ≠ 0 ∨ csr.uris ≠ 0 ∨ csr.emailAddresses ≠ 0 ∨ csr.extensions ≠ 0 ∨
          csr.extraExtensions ≠ 0 then
        .error (.text "caller-controlled CSR names and extensions are not accepted")
      else .ok ()

def enrollmentRequestToProto (record : EnrollmentRequestRecord J) : Except EnrollErr EnrollmentView :=
  match lib.unmarshalCapabilities record.capabilitiesJSON with
  | none => .error (.text "decode enrollment capabilities")
  | some capabilities =>
    if !record.nodeType.known then
      .error (.text ("unknown enrollment node type " ++ lib.quote record.nodeType.text))
    else .ok
      { id := record.id
        tokenId := record.tokenID
        status := record.status
        proposedNodeId := record.proposedNodeID
        displayName := record.displayName
        nodeType := record.nodeType
        publicKey := record.publicKey
        capabilities
        requestedAt := timestamp record.requestedAt
        expiresAt := timestamp record.expiresAt
        decisionReasonCode := (record.verdict.map (·.reasonCode)).getD "" }

end Checks

/-! ## Calls -/

inductive Request (J : Type) where
  | clock
  /-- `id.New`. -/
  | newID (kind : String)
  | getEnrollmentToken (tokenHash : List UInt8) (now : Instant)
  | getEnrollmentTokenByOperation (operationID : String)
  | getEnrollmentRequest (id : String)
  | getEnrollmentRequestByToken (tokenID : String)
  | getNode (id : String)
  | issueNodeCertificate (nodeID : String) (publicKey : List UInt8) (now : Instant)
  | appendWithMutation (entry : AppendRequest) (mutation : Mutation J)

def Request.Answer {J : Type} : Request J → Type
  | clock => Instant
  | newID _ => String
  | getEnrollmentToken _ _ => Except EnrollErr (EnrollmentTokenRecord J)
  | getEnrollmentTokenByOperation _ => Except EnrollErr (EnrollmentTokenRecord J)
  | getEnrollmentRequest _ => Except EnrollErr (EnrollmentRequestRecord J)
  | getEnrollmentRequestByToken _ => Except EnrollErr (EnrollmentRequestRecord J)
  | getNode _ => Except EnrollErr (Node J)
  | issueNodeCertificate _ _ _ => Except EnrollErr String
  | appendWithMutation _ _ => Except EnrollErr Unit

abbrev enrollSig (J : Type) : Sig := ⟨Request J, Request.Answer⟩

abbrev Call (J α : Type) := ExceptT EnrollErr (Prog (enrollSig J)) α

section Call
variable {J α β : Type}

def ask (q : Request J) : Call J q.Answer := ExceptT.mk (.call q fun r => .ret (.ok r))

def readClock : Call J Instant := ask .clock

def ofExcept (r : Except EnrollErr α) : Call J α := ExceptT.mk (.ret r)

end Call

def details (fields : List (String × String)) : Option String :=
  some ("\x7b" ++ Json.commaSeparated (fields.map fun field => Json.quote field.1 ++ ":" ++ field.2) ++ "\x7d")

section Service
variable {J : Type} (lib : Library J) (service : Service)

def Service.tokenEntry (actorID operationID : String) (token : Token) : AppendRequest where
  actorType := "operator"
  actorID := actorID
  action := "enrollment.token_created"
  resourceType := "enrollment_token"
  resourceID := token.id
  outcome := "success"
  details := if token.expiresAt.Parses then details
      [("allowedNodeType", Json.quote token.scope.allowedNodeType.text), ("approvedTags", stringArray token.scope.approvedTags),
        ("expiresAt", Json.quote (formatTime token.expiresAt)), ("operationId", Json.quote operationID)]
    else none

def resolveTokenOperation (record : EnrollmentTokenRecord J) (actorID : String) (scope : TokenScope) (tokenValue : String)
    (digest : List UInt8) : Except EnrollErr Token :=
  match lib.unmarshalDescriptor record.scopeJSON with
  | none => .error (.text "decode enrollment token operation")
  | some descriptor =>
    if record.createdByPrincipalID ≠ actorID ∨ descriptor.allowedNodeType ≠ scope.allowedNodeType ∨
        descriptor.allowedTags ≠ scope.approvedTags ∨ record.hash ≠ digest then .error .operationConflict
    else .ok ⟨record.id, tokenValue, scope, record.expiresAt⟩

def Service.descriptor (actorID : String) (token : Token) (now : Instant) : EnrollmentTokenDescriptor where
  id := token.id
  createdAt := timestamp now
  expiresAt := timestamp token.expiresAt
  createdByPrincipalId := actorID
  allowedNodeType := token.scope.allowedNodeType
  allowedTags := token.scope.approvedTags

def Service.createScopedToken (actorID operationID : String) (scope : TokenScope) : Call J Token := do
  if service.tokenTTL ≤ 0 ∨ 15 * minute < service.tokenTTL then
    throw (.text "enrollment token TTL must be positive and no more than 15 minutes")
  else if trimSpace actorID = "" ∨ trimSpace operationID = "" then
    throw (.text "enrollment actor and operation id are required")
  else do
    ofExcept (scope.validate lib)
    let rawToken ← ofExcept ((service.deriveEnrollmentToken actorID operationID).mapError .text)
    let tokenValue := enrollmentTokenPrefix ++ rawURLBase64 rawToken
    let digest := tokenDigest rawToken
    match ← ask (.getEnrollmentTokenByOperation operationID) with
    | .ok existing => ofExcept (resolveTokenOperation lib existing actorID scope tokenValue digest)
    | .error .tokenInvalid => do
      let now ← readClock
      let id ← ask (.newID "enroll")
      let token : Token := ⟨id, tokenValue, scope, now.add service.tokenTTL⟩
      match lib.marshalDescriptor (Service.descriptor actorID token now) with
      | none => throw (.text "encode enrollment token scope")
      | some scopeJSON =>
        match ← ask (.appendWithMutation (Service.tokenEntry actorID operationID token) (.createEnrollmentToken
            ⟨id, digest, scopeJSON, actorID, operationID, now, token.expiresAt, none⟩)) with
        | .ok () => return token
        | .error .operationConflict =>
          let existing ← ofExcept (← ask (.getEnrollmentTokenByOperation operationID))
          ofExcept (resolveTokenOperation lib existing actorID scope tokenValue digest)
        | .error err => throw err
    | .error err => throw err

/-- `ResolveEnrollmentRequestReplay`, which reads the token and then its request. -/
def resolveEnrollmentRequestReplay (tokenHash : List UInt8) (requestID : String) (requestDigest : List UInt8) :
    Call J (EnrollmentRequestRecord J) := do
  let record ← ofExcept (← ask (.getEnrollmentToken tokenHash Instant.zero))
  match record.consumed with
  | none => throw .tokenUsed
  | some consumption =>
    if consumption.requestID ≠ requestID ∨ consumption.requestDigest ≠ requestDigest then throw .tokenUsed
    else ofExcept (← ask (.getEnrollmentRequestByToken record.id))

def enrollmentEntry (request : EnrollNodeRequest) (record : EnrollmentRequestRecord J) : AppendRequest where
  actorType := "node"
  actorID := record.proposedNodeID
  action := "enrollment.requested"
  resourceType := "enrollment_request"
  resourceID := record.id
  outcome := "pending_operator_approval"
  details := details
    [("capabilitiesVerification", Json.quote "CLAIMED"), ("name", Json.quote request.displayName),
      ("nodeType", Json.quote request.nodeType.text), ("platform", Json.quote request.platform),
      ("proposedNodeId", Json.quote record.proposedNodeID), ("requestId", Json.quote request.requestId),
      ("requestedNodeId", Json.quote request.requestedNodeId)]

def enrollmentRecord (request : EnrollNodeRequest) (token : EnrollmentTokenRecord J) (descriptor : EnrollmentTokenDescriptor)
    (proof : List UInt8) (capabilities : J) (id proposedNodeID : String) (now : Instant) : EnrollmentRequestRecord J where
  id := id
  tokenID := token.id
  requestID := request.requestId
  requestDigest := proof
  status := .pending
  proposedNodeID := proposedNodeID
  displayName := request.displayName
  nodeType := request.nodeType
  platform := request.platform
  platformVersion := request.platformVersion
  publicKey := request.publicKey
  capabilitiesJSON := capabilities
  allowedTags := descriptor.allowedTags
  requestedAt := now
  expiresAt := token.expiresAt
  verdict := none
  approvedTags := []
  nodeID := none

/-- The end of `Enroll`, where the node has an id. -/
def submitAs (request : EnrollNodeRequest) (tokenHash : List UInt8) (token : EnrollmentTokenRecord J)
    (descriptor : EnrollmentTokenDescriptor) (proof : List UInt8) (capabilities : J) (now : Instant)
    (proposedNodeID : String) : Call J EnrollmentView := do
  let id ← ask (.newID "enrollment_request")
  let record := enrollmentRecord request token descriptor proof capabilities id proposedNodeID now
  match ← ask (.appendWithMutation (enrollmentEntry request record) (.submitEnrollmentRequest tokenHash now record)) with
  | .ok () => ofExcept (enrollmentRequestToProto lib record)
  | .error .tokenUsed => do
    let replay ← resolveEnrollmentRequestReplay tokenHash request.requestId proof
    ofExcept (enrollmentRequestToProto lib replay)
  | .error err => throw err

/-- What `Enroll` does for a token that was not consumed when it was read. -/
def submit (request : EnrollNodeRequest) (manifest : CapabilityManifest) (tokenHash : List UInt8)
    (token : EnrollmentTokenRecord J) (descriptor : EnrollmentTokenDescriptor) (proof : List UInt8) (now : Instant) :
    Call J EnrollmentView := do
  ofExcept (validateCSR lib request)
  ofExcept (validateCapabilities lib manifest now)
  match lib.marshalCapabilities manifest with
  | none => throw (.text "encode capability claims")
  | some capabilities =>
    if request.requestedNodeId = "" then do
      let proposedNodeID ← ask (.newID "node")
      submitAs lib request tokenHash token descriptor proof capabilities now proposedNodeID
    else submitAs lib request tokenHash token descriptor proof capabilities now request.requestedNodeId

/-- What `Enroll` checks of the token it has read, and the digest of the request. -/
def Service.admits (request : EnrollNodeRequest) (token : EnrollmentTokenRecord J) :
    Except EnrollErr (EnrollmentTokenDescriptor × List UInt8) :=
  match lib.unmarshalDescriptor token.scopeJSON with
  | none => .error (.text "decode enrollment token scope")
  | some descriptor =>
    if descriptor.allowedNodeType ≠ request.nodeType then
      .error (.text ("node type " ++ lib.quote request.nodeType.text ++ " is outside enrollment token scope"))
    else match validateRequestedNodeID request.requestedNodeId service.deploymentID service.operatorID with
      | .error err => .error err
      | .ok () =>
        match proofMessage lib request with
        | .error err => .error err
        | .ok proof =>
          if !lib.verify request.publicKey proof request.proofOfPossession then
            .error (.text "enrollment proof of possession is invalid")
          else .ok (descriptor, proof)

def Service.enroll (request : EnrollNodeRequest) : Call J EnrollmentView := do
  let now ← readClock
  ofExcept (validateRequest lib request now)
  let rawToken ← ofExcept (parseToken request.tokenValue)
  let token ← ofExcept (← ask (.getEnrollmentToken (tokenDigest rawToken) now))
  let (descriptor, proof) ← ofExcept (service.admits lib request token)
  if token.consumed.isSome then do
    let replay ← resolveEnrollmentRequestReplay (tokenDigest rawToken) request.requestId proof
    ofExcept (enrollmentRequestToProto lib replay)
  else match request.capabilities with
    | none => throw (.text "capability manifest is required")
    | some manifest => submit lib request manifest (tokenDigest rawToken) token descriptor proof now

/-- The loop over the tags of an approval, with the tags it has seen. -/
def approvableTags (allowed : List String) : List String → List String → Except EnrollErr Unit
  | _, [] => .ok ()
  | seen, tag :: tags =>
    if !validBoundedText tag 64 then .error (.text "approved tags must be bounded canonical values")
    else if tag ∉ allowed then .error (.text ("approved tag " ++ lib.quote tag ++ " is outside token scope"))
    else if tag ∈ seen then .error (.text ("approved tag " ++ lib.quote tag ++ " is duplicated"))
    else approvableTags allowed (tag :: seen) tags

def approvalEntry (actorID : String) (request : ApproveEnrollmentRequest) (record : EnrollmentRequestRecord J) (node : Node J) :
    AppendRequest where
  actorType := "operator"
  actorID := actorID
  action := "node.enrolled"
  resourceType := "node"
  resourceID := node.id
  outcome := "success"
  details := details
    [("approvedTags", stringArray request.approvedTags), ("enrollmentId", Json.quote record.id),
      ("nodeId", Json.quote node.id), ("operationId", Json.quote request.operationId),
      ("reasonCode", Json.quote request.reasonCode)]

def enrolledNode (record : EnrollmentRequestRecord J) (tags : List String) (certificate : String) (now : Instant) : Node J where
  id := record.proposedNodeID
  name := record.displayName
  type := record.nodeType
  platform := record.platform
  platformVersion := record.platformVersion
  status := .active
  tags := tags
  capabilities := record.capabilitiesJSON
  capabilitiesVerification := "CLAIMED"
  publicKey := record.publicKey
  certificatePEM := certificate
  enrolledAt := now
  revokedAt := none

def approvalMutation (actorID : String) (request : ApproveEnrollmentRequest) (record : EnrollmentRequestRecord J)
    (node : Node J) (now : Instant) : Mutation J :=
  .approveEnrollmentRequest record.id actorID request.operationId request.reasonCode request.approvedTags now node

/-- The end of `Approve`, for a request that was pending when it was read. -/
def approvePending (actorID : String) (request : ApproveEnrollmentRequest) (record : EnrollmentRequestRecord J) :
    Call J (Node J) := do
  let checked ← readClock
  if ¬ checked < record.expiresAt then throw .requestExpired
  else do
    ofExcept (approvableTags lib record.allowedTags [] request.approvedTags)
    let now ← readClock
    let certificate ← ofExcept (← ask (.issueNodeCertificate record.proposedNodeID record.publicKey now))
    let node := enrolledNode record request.approvedTags certificate now
    ofExcept (← ask (.appendWithMutation (approvalEntry actorID request record node)
      (approvalMutation actorID request record node now)))
    return node

def EnrollmentRequestRecord.approvedBy (record : EnrollmentRequestRecord J) (operationID : String) : Option (Verdict × String) :=
  match record.status, record.verdict, record.nodeID with
  | .approved, some verdict, some nodeID => if verdict.operationID = operationID ∧ nodeID ≠ "" then some (verdict, nodeID) else none
  | _, _, _ => none

def approve (actorID : String) (request : ApproveEnrollmentRequest) : Call J (Node J) := do
  if !validBoundedText actorID 128 || !validBoundedText request.enrollmentId 128 ||
      !validBoundedText request.operationId 128 || !validBoundedText request.reasonCode 128 then
    throw (.text "approval requires bounded actor, enrollment, operation, and reason identifiers")
  else if 32 < request.approvedTags.length then throw (.text "approval exceeds 32 tags")
  else do
    let record ← ofExcept (← ask (.getEnrollmentRequest request.enrollmentId))
    match record.approvedBy request.operationId with
    | some (verdict, nodeID) =>
      if verdict.decidedByPrincipalID ≠ actorID ∨ verdict.reasonCode ≠ request.reasonCode ∨
          record.approvedTags ≠ request.approvedTags then throw .operationConflict
      else ofExcept (← ask (.getNode nodeID))
    | none =>
      if record.status ≠ .pending then throw .requestDecided
      else approvePending lib actorID request record

def denialEntry (actorID : String) (request : DenyEnrollmentRequest) (record : EnrollmentRequestRecord J) : AppendRequest where
  actorType := "operator"
  actorID := actorID
  action := "enrollment.denied"
  resourceType := "enrollment_request"
  resourceID := record.id
  outcome := "denied"
  details := details [("operationId", Json.quote request.operationId), ("reasonCode", Json.quote request.reasonCode)]

def EnrollmentRequestRecord.deniedBy (record : EnrollmentRequestRecord J) (operationID : String) : Option Verdict :=
  if record.status = .denied then record.verdict.filter fun verdict => verdict.operationID = operationID else none

def deny (actorID : String) (request : DenyEnrollmentRequest) : Call J EnrollmentView := do
  if !validBoundedText actorID 128 || !validBoundedText request.enrollmentId 128 ||
      !validBoundedText request.operationId 128 || !validBoundedText request.reasonCode 128 then
    throw (.text "denial requires bounded actor, enrollment, operation, and reason identifiers")
  else do
    let record ← ofExcept (← ask (.getEnrollmentRequest request.enrollmentId))
    match record.deniedBy request.operationId with
    | some verdict =>
      if verdict.decidedByPrincipalID ≠ actorID ∨ verdict.reasonCode ≠ request.reasonCode then throw .operationConflict
      else ofExcept (enrollmentRequestToProto lib record)
    | none =>
      if record.status ≠ .pending then throw .requestDecided
      else do
        let now ← readClock
        ofExcept (← ask (.appendWithMutation (denialEntry actorID request record)
          (.denyEnrollmentRequest record.id actorID request.operationId request.reasonCode now)))
        ofExcept (enrollmentRequestToProto lib
          (record.deny ⟨request.reasonCode, request.operationId, actorID, now⟩))

def statusText : NodeStatus → String
  | .active => "ACTIVE"
  | .suspended => "SUSPENDED"
  | .revoked => "REVOKED"

def setStatusWithReason (actorID nodeID : String) (status : NodeStatus) (operationID reasonCode : String) : Call J Unit := do
  if !validBoundedText actorID 128 || !validBoundedText nodeID 128 then throw (.text "invalid node status")
  else if (operationID == "") != (reasonCode == "") ||
      (operationID != "" && (!validBoundedText operationID 128 || !validBoundedText reasonCode 128)) then
    throw (.text "node status operation and reason identifiers must be provided together")
  else do
    let now ← readClock
    ofExcept (← ask (.appendWithMutation
      ⟨"operator", actorID, "node.status_changed", "node", nodeID, "success", details
        [("operationId", Json.quote operationID), ("reasonCode", Json.quote reasonCode),
          ("status", Json.quote (statusText status))]⟩
      (.setNodeStatus nodeID status now)))

def updateMetadataWithOperation (actorID nodeID name : String) (tags : List String) (operationID : String) : Call J Unit := do
  if !validBoundedText actorID 128 || !validBoundedText nodeID 128 || !validBoundedText name 128 then
    throw (.text "actor id, node id, and node name are required bounded values")
  else if operationID != "" && !validBoundedText operationID 128 then
    throw (.text "node metadata operation id is invalid")
  else do
    ofExcept (TokenScope.validate lib ⟨.agent, tags⟩)
    ofExcept (← ask (.appendWithMutation
      ⟨"operator", actorID, "node.metadata_updated", "node", nodeID, "success", details
        [("name", Json.quote name), ("operationId", Json.quote operationID), ("tags", stringArray tags)]⟩
      (.updateNodeMetadata nodeID name tags)))

end Service

/-! ## What the calls share -/

/-- What a clock shows: a time of a year that has four digits. -/
abbrev Reading := { t : Instant // t.Parses }

structure World (J : Type) where
  /-- What the clock showed last. -/
  now : Reading
  tables : Tables J
  /-- The audit log, with the calls its entries are of. No program reads it. -/
  audit : List (ℕ × AppendRequest)

section World
variable {J : Type}

def World.record (w : World J) (call : ℕ) (entry : AppendRequest) : World J :=
  { w with audit := w.audit ++ [(call, entry)] }

/-- A mutation and its audit entry, in one transaction. -/
def World.append (w : World J) (call : ℕ) (entry : AppendRequest) (mutation : Mutation J) : Except EnrollErr Unit × World J :=
  match mutation.tx.commit w.tables with
  | (.ok _, tables) => (.ok (), { w.record call entry with tables })
  | (.error err, _) => (.error err, w)

/-- The requests of one call. The clock does not go back. Ids are random, and certificates are issued
or not as the authority sees fit. -/
def serving (faults : Faults) (call : ℕ) : Handler (enrollSig J) (World J) where
  step
    | .clock, w, r, w' => ∃ now : Reading, r = now.1 ∧ w.now.1 ≤ now.1 ∧ w' = { w with now }
    | .newID kind, w, r, w' => (∃ entropy : List UInt8, entropy.length = 16 ∧ r = kind ++ "_" ++ hexEncode entropy) ∧ w' = w
    | .getEnrollmentToken tokenHash now, w, r, w' => Served faults (w.tables.getEnrollmentToken tokenHash now, w) w r w'
    | .getEnrollmentTokenByOperation operationID, w, r, w' =>
      Served faults (w.tables.getEnrollmentTokenByOperation operationID, w) w r w'
    | .getEnrollmentRequest id, w, r, w' => Served faults (w.tables.getEnrollmentRequest id, w) w r w'
    | .getEnrollmentRequestByToken tokenID, w, r, w' =>
      Served faults (w.tables.getEnrollmentRequestByToken tokenID, w) w r w'
    | .getNode id, w, r, w' => Served faults (w.tables.getNode id, w) w r w'
    | .issueNodeCertificate _ _ _, w, _, w' => w' = w
    | .appendWithMutation entry mutation, w, r, w' => Served faults (w.append call entry mutation) w r w'
  torn _ w w' := w' = w

theorem World.append_cases (w : World J) (call : ℕ) (entry : AppendRequest) (mutation : Mutation J) :
    (∃ err, w.append call entry mutation = (.error err, w)) ∨
      ∃ tables, Moves w.tables mutation tables ∧
        w.append call entry mutation = (.ok (), { w.record call entry with tables }) := by
  unfold World.append
  rcases mutation.tx.commit_cases w.tables with ⟨err, hcommit⟩ | ⟨u, tables, hdoes, hcommit⟩
  · rw [hcommit]
    exact .inl ⟨err, rfl⟩
  · rw [hcommit]
    exact .inr ⟨tables, moves_of_does hdoes, rfl⟩

theorem tables_of_served {α : Type} {faults : Faults} {w w' : World J} {truth r : Except EnrollErr α}
    (h : Served faults (truth, w) w r w') : w'.tables = w.tables := by
  rcases h.state with rfl | rfl
  · rfl
  · rfl

theorem serving_tables {faults : Faults} {call : ℕ} {q : Request J} {w w' : World J} {r : q.Answer}
    (h : (serving faults call).step q w r w') : w'.tables = w.tables ∨
      ∃ entry mutation, q = .appendWithMutation entry mutation ∧ Moves w.tables mutation w'.tables := by
  cases q with
  | clock =>
    obtain ⟨now, -, -, rfl⟩ := h
    exact .inl rfl
  | newID kind =>
    obtain ⟨-, rfl⟩ := h
    exact .inl rfl
  | getEnrollmentToken tokenHash now => exact .inl (tables_of_served h)
  | getEnrollmentTokenByOperation operationID => exact .inl (tables_of_served h)
  | getEnrollmentRequest id => exact .inl (tables_of_served h)
  | getEnrollmentRequestByToken tokenID => exact .inl (tables_of_served h)
  | getNode id => exact .inl (tables_of_served h)
  | issueNodeCertificate nodeID publicKey now => exact .inl (congrArg World.tables h)
  | appendWithMutation entry mutation =>
    rcases Served.state h with rfl | rfl
    · exact .inl rfl
    · rcases w.append_cases call entry mutation with ⟨err, happend⟩ | ⟨tables, hmoves, happend⟩
      · rw [happend]
        exact .inl rfl
      · rw [happend]
        exact .inr ⟨entry, mutation, rfl, hmoves⟩

end World
end AntiFlock.Enrollment
