import AntiFlock.Go.Except
import AntiFlock.Go.Instant
import AntiFlock.Server.Routes
import AntiFlock.Sql.Transaction
import Mathlib.Data.List.Basic
import Mathlib.Data.List.Nodup

set_option autoImplicit false

/-!
# The enrollment tables

Tokens, the requests that tokens admit, the nodes that requests become, and the
registry of node identities. Each mutation is one transaction; `Moves` says once
what a mutation that commits has found and what it has written.
-/
namespace AntiFlock.Enrollment
open AntiFlock.Go AntiFlock.Sql
open AntiFlock.Server (NodeStatus)

/-! ## Rows -/

inductive NodeType where
  | unspecified
  | desktop
  | laptop
  | phone
  | tablet
  | server
  | gateway
  | router
  | agent
  | unlisted (number : ℤ)
deriving DecidableEq

inductive RequestStatus where
  | pending
  | approved
  | denied
  | expired
deriving DecidableEq

inductive EnrollErr where
  | tokenInvalid
  | tokenExpired
  | tokenUsed
  | requestNotFound
  | requestDecided
  | requestExpired
  | credentialReused
  | nodeIdentityUsed
  | nodeNotFound
  | nodeRevoked
  | operationConflict
  | text (message : String)
deriving DecidableEq

structure Consumption where
  consumedAt : Instant
  nodeID : String
  requestID : String
  requestDigest : List UInt8

/-- A row of `enrollment_tokens`. Texts of JSON are of type `J`. -/
structure EnrollmentTokenRecord (J : Type) where
  id : String
  hash : List UInt8
  scopeJSON : J
  createdByPrincipalID : String
  operationID : String
  createdAt : Instant
  expiresAt : Instant
  consumed : Option Consumption

structure Verdict where
  reasonCode : String
  operationID : String
  decidedByPrincipalID : String
  decidedAt : Instant

/-- A row of `enrollment_requests`. -/
structure EnrollmentRequestRecord (J : Type) where
  id : String
  tokenID : String
  requestID : String
  requestDigest : List UInt8
  status : RequestStatus
  proposedNodeID : String
  displayName : String
  nodeType : NodeType
  platform : String
  platformVersion : String
  publicKey : List UInt8
  capabilitiesJSON : J
  allowedTags : List String
  requestedAt : Instant
  expiresAt : Instant
  verdict : Option Verdict
  approvedTags : List String
  nodeID : Option String

/-- A row of `nodes`. -/
structure Node (J : Type) where
  id : String
  name : String
  type : NodeType
  platform : String
  platformVersion : String
  status : NodeStatus
  tags : List String
  capabilities : J
  capabilitiesVerification : String
  publicKey : List UInt8
  certificatePEM : String
  enrolledAt : Instant
  revokedAt : Option Instant

/-- A row of `node_identity_registry`. -/
structure Claim where
  nodeID : String
  firstEnrollmentID : String
  claimedAt : Instant

structure Tables (J : Type) where
  tokens : List (EnrollmentTokenRecord J)
  requests : List (EnrollmentRequestRecord J)
  nodes : List (Node J)
  registry : List Claim

variable {J : Type}

abbrev EnrollTx (J α : Type) := Tx (Tables J) EnrollErr α

/-! ## Queries -/

/-- `parseTime` of a time that was stored. -/
def parseTime (t : Instant) (failure : String) : Except EnrollErr Instant :=
  if t.Parses then .ok t else .error (.text failure)

def scanToken (row : EnrollmentTokenRecord J) : Except EnrollErr (EnrollmentTokenRecord J) := do
  let _ ← parseTime row.createdAt "parse enrollment token creation time"
  let _ ← parseTime row.expiresAt "parse enrollment token expiry"
  match row.consumed with
  | none => .ok row
  | some consumption =>
    let _ ← parseTime consumption.consumedAt "parse enrollment token consumption time"
    .ok row

def Tables.getEnrollmentTokenByOperation (t : Tables J) (operationID : String) :
    Except EnrollErr (EnrollmentTokenRecord J) :=
  match t.tokens.find? fun row => row.operationID = operationID with
  | none => .error .tokenInvalid
  | some row => scanToken row

/-- Only a token that was not consumed can have expired. -/
def Tables.getEnrollmentToken (t : Tables J) (tokenHash : List UInt8) (now : Instant) :
    Except EnrollErr (EnrollmentTokenRecord J) :=
  match t.tokens.find? fun row => row.hash = tokenHash with
  | none => .error .tokenInvalid
  | some row => do
    let row ← scanToken row
    if row.consumed.isNone ∧ ¬ now < row.expiresAt then .error .tokenExpired else .ok row

def scanEnrollmentRequest (row : EnrollmentRequestRecord J) : Except EnrollErr (EnrollmentRequestRecord J) := do
  let _ ← parseTime row.requestedAt "parse enrollment request time"
  let _ ← parseTime row.expiresAt "parse enrollment request expiry"
  match row.verdict with
  | none => .ok row
  | some verdict =>
    let _ ← parseTime verdict.decidedAt "parse enrollment decision time"
    .ok row

def Tables.getEnrollmentRequest (t : Tables J) (id : String) : Except EnrollErr (EnrollmentRequestRecord J) :=
  match t.requests.find? fun row => row.id = id with
  | none => .error .requestNotFound
  | some row => scanEnrollmentRequest row

def Tables.getEnrollmentRequestByToken (t : Tables J) (tokenID : String) :
    Except EnrollErr (EnrollmentRequestRecord J) :=
  match t.requests.find? fun row => row.tokenID = tokenID with
  | none => .error .requestNotFound
  | some row => scanEnrollmentRequest row

def scanNode (row : Node J) : Except EnrollErr (Node J) := do
  let _ ← parseTime row.enrolledAt "parse enrolled time"
  match row.revokedAt with
  | none => .ok row
  | some revokedAt =>
    let _ ← parseTime revokedAt "parse revoked time"
    .ok row

def Tables.getNode (t : Tables J) (id : String) : Except EnrollErr (Node J) :=
  match t.nodes.find? fun row => row.id = id with
  | none => .error .nodeNotFound
  | some row => scanNode row

/-! ### What the queries find -/

theorem parseTime_eq_ok {time read : Instant} {failure : String} :
    parseTime time failure = .ok read ↔ time.Parses ∧ read = time := by
  unfold parseTime
  split
  · rename_i hparses
    simp [hparses, eq_comm]
  · rename_i hparses
    simp [hparses]

def EnrollmentTokenRecord.Readable (row : EnrollmentTokenRecord J) : Prop :=
  row.createdAt.Parses ∧ row.expiresAt.Parses ∧ ∀ consumption ∈ row.consumed, consumption.consumedAt.Parses

def EnrollmentRequestRecord.Readable (row : EnrollmentRequestRecord J) : Prop :=
  row.requestedAt.Parses ∧ row.expiresAt.Parses ∧ ∀ verdict ∈ row.verdict, verdict.decidedAt.Parses

theorem scanToken_eq_ok {row read : EnrollmentTokenRecord J} :
    scanToken row = .ok read ↔ row.Readable ∧ read = row := by
  simp only [scanToken, bind_eq_ok, parseTime_eq_ok, EnrollmentTokenRecord.Readable]
  cases row.consumed with
  | none => simp [and_assoc, eq_comm]
  | some consumption =>
    simp only [bind_eq_ok, parseTime_eq_ok]
    simp [and_assoc, eq_comm]

theorem scanEnrollmentRequest_eq_ok {row read : EnrollmentRequestRecord J} :
    scanEnrollmentRequest row = .ok read ↔ row.Readable ∧ read = row := by
  simp only [scanEnrollmentRequest, bind_eq_ok, parseTime_eq_ok, EnrollmentRequestRecord.Readable]
  cases row.verdict with
  | none => simp [and_assoc, eq_comm]
  | some verdict =>
    simp only [bind_eq_ok, parseTime_eq_ok]
    simp [and_assoc, eq_comm]

theorem getEnrollmentToken_eq_ok {t : Tables J} {tokenHash : List UInt8} {now : Instant} {token : EnrollmentTokenRecord J} :
    t.getEnrollmentToken tokenHash now = .ok token ↔
      t.tokens.find? (fun row => row.hash = tokenHash) = some token ∧ token.Readable ∧
        (token.consumed.isNone = true → now < token.expiresAt) := by
  unfold Tables.getEnrollmentToken
  cases t.tokens.find? fun row => row.hash = tokenHash with
  | none => simp
  | some row =>
    simp only [bind_eq_ok, scanToken_eq_ok, Option.some.injEq]
    constructor
    · rintro ⟨_, ⟨hread, rfl⟩, h⟩
      split at h
      · cases h
      · rename_i hlate
        cases h
        exact ⟨rfl, hread, fun hnone => not_not.mp fun hnow => hlate ⟨hnone, hnow⟩⟩
    · rintro ⟨rfl, hread, hbefore⟩
      exact ⟨row, ⟨hread, rfl⟩, if_neg fun hlate => hlate.2 (hbefore hlate.1)⟩

theorem getEnrollmentRequest_eq_ok {t : Tables J} {id : String} {row : EnrollmentRequestRecord J} :
    t.getEnrollmentRequest id = .ok row ↔ t.requests.find? (fun row => row.id = id) = some row ∧ row.Readable := by
  unfold Tables.getEnrollmentRequest
  cases t.requests.find? fun row => row.id = id with
  | none => simp
  | some found =>
    simp only [scanEnrollmentRequest_eq_ok, Option.some.injEq]
    constructor
    · rintro ⟨hread, rfl⟩
      exact ⟨rfl, hread⟩
    · rintro ⟨rfl, hread⟩
      exact ⟨hread, rfl⟩

theorem getEnrollmentRequestByToken_eq_ok {t : Tables J} {tokenID : String} {row : EnrollmentRequestRecord J} :
    t.getEnrollmentRequestByToken tokenID = .ok row ↔
      t.requests.find? (fun row => row.tokenID = tokenID) = some row ∧ row.Readable := by
  unfold Tables.getEnrollmentRequestByToken
  cases t.requests.find? fun row => row.tokenID = tokenID with
  | none => simp
  | some found =>
    simp only [scanEnrollmentRequest_eq_ok, Option.some.injEq]
    constructor
    · rintro ⟨hread, rfl⟩
      exact ⟨rfl, hread⟩
    · rintro ⟨rfl, hread⟩
      exact ⟨hread, rfl⟩

/-! ## Mutations -/

/-- The columns `id`, `token_hash` and `operation_id` are unique. -/
def createEnrollmentToken (token : EnrollmentTokenRecord J) : EnrollTx J Unit := do
  let t ← get
  Tx.require (∀ row ∈ t.tokens, row.operationID ≠ token.operationID) .operationConflict
  Tx.require (∀ row ∈ t.tokens, row.id ≠ token.id ∧ row.hash ≠ token.hash) (.text "create enrollment token")
  modify fun t => { t with tokens := t.tokens ++ [{ token with consumed := none }] }

/-- A claim that is there already is left alone, whichever of its two columns it is there by. -/
def claimNodeIdentity (nodeID enrollmentID : String) (now : Instant) : EnrollTx J Unit := do
  let t ← get
  Tx.require (∀ row ∈ t.registry, row.nodeID ≠ nodeID ∧ row.firstEnrollmentID ≠ enrollmentID) .nodeIdentityUsed
  modify fun t => { t with registry := t.registry ++ [⟨nodeID, enrollmentID, now⟩] }

/-- The row of a new request: it is pending, whatever the record says. -/
def EnrollmentRequestRecord.submitted (record : EnrollmentRequestRecord J) (tokenID : String) (expiresAt : Instant) :
    EnrollmentRequestRecord J :=
  { record with
    tokenID := tokenID
    expiresAt := expiresAt
    status := .pending
    verdict := none
    approvedTags := []
    nodeID := none }

/-- Two rows of `enrollment_requests` that may stand beside each other. -/
def EnrollmentRequestRecord.Apart (row other : EnrollmentRequestRecord J) : Prop :=
  row.id ≠ other.id ∧ row.tokenID ≠ other.tokenID ∧ row.proposedNodeID ≠ other.proposedNodeID ∧
    row.publicKey ≠ other.publicKey

instance (row other : EnrollmentRequestRecord J) : Decidable (row.Apart other) :=
  inferInstanceAs (Decidable (_ ∧ _))

/-- Consumes the token with a hash, if it is not consumed. -/
def Tables.consume (t : Tables J) (tokenHash : List UInt8) (consumption : Consumption) : Tables J :=
  { t with tokens := t.tokens.map fun row =>
      if row.hash = tokenHash ∧ row.consumed.isNone then { row with consumed := some consumption } else row }

def submitEnrollmentRequest (tokenHash : List UInt8) (now : Instant) (record : EnrollmentRequestRecord J) :
    EnrollTx J Unit := do
  let t ← get
  match t.tokens.find? fun row => row.hash = tokenHash with
  | none => throw .tokenInvalid
  | some token =>
    Tx.require (token.consumed.isNone) .tokenUsed
    let expiry ← liftM (parseTime token.expiresAt "parse enrollment token expiry")
    Tx.require (now < expiry) .tokenExpired
    Tx.require ((∀ row ∈ t.nodes, row.publicKey ≠ record.publicKey) ∧
      ∀ row ∈ t.requests, row.publicKey ≠ record.publicKey) .credentialReused
    claimNodeIdentity record.proposedNodeID record.id now
    Tx.require (∀ row ∈ t.requests, row.Apart (record.submitted token.id expiry)) (.text "insert enrollment request")
    modify fun t => { t with requests := t.requests ++ [record.submitted token.id expiry] }
    Tx.require ((t.tokens.filter fun row => row.hash = tokenHash ∧ row.consumed.isNone).length = 1) .tokenUsed
    modify fun t => t.consume tokenHash ⟨now, record.proposedNodeID, record.requestID, record.requestDigest⟩

/-- The columns `id` and `public_key` are unique. -/
def insertNode (node : Node J) : EnrollTx J Unit := do
  let t ← get
  Tx.require (∀ row ∈ t.nodes, row.id ≠ node.id ∧ row.publicKey ≠ node.publicKey) (.text "insert enrolled node")
  modify fun t => { t with nodes := t.nodes ++ [{ node with revokedAt := none }] }

/-- The operation of a verdict is unique among the requests. -/
def Tables.Undecided (t : Tables J) (operationID : String) : Prop :=
  ∀ row ∈ t.requests, ∀ verdict ∈ row.verdict, verdict.operationID ≠ operationID

instance (t : Tables J) (operationID : String) : Decidable (t.Undecided operationID) :=
  inferInstanceAs (Decidable (∀ _ ∈ _, _))

def Tables.settle (t : Tables J) (id : String) (change : EnrollmentRequestRecord J → EnrollmentRequestRecord J) :
    Tables J :=
  { t with requests := t.requests.map fun row => if row.id = id ∧ row.status = .pending then change row else row }

def EnrollmentRequestRecord.approve (verdict : Verdict) (tags : List String) (nodeID : String)
    (row : EnrollmentRequestRecord J) : EnrollmentRequestRecord J :=
  { row with status := .approved, verdict := some verdict, approvedTags := tags, nodeID := some nodeID }

def EnrollmentRequestRecord.deny (verdict : Verdict) (row : EnrollmentRequestRecord J) : EnrollmentRequestRecord J :=
  { row with status := .denied, verdict := some verdict }

def EnrollmentRequestRecord.expire (row : EnrollmentRequestRecord J) : EnrollmentRequestRecord J :=
  { row with status := .expired }

/-- A request that has expired is marked, and then the transaction fails. -/
def approveEnrollmentRequest (enrollmentID actorID operationID reasonCode : String) (tags : List String) (now : Instant)
    (node : Node J) : EnrollTx J Unit := do
  let t ← get
  match t.requests.find? fun row => row.id = enrollmentID with
  | none => throw .requestNotFound
  | some request =>
    Tx.require (request.status = .pending) .requestDecided
    let expiry ← liftM (parseTime request.expiresAt "parse enrollment request expiry")
    if ¬ now < expiry then
      modify fun t => t.settle enrollmentID .expire
      throw .requestExpired
    else
      match t.registry.find? fun row => row.nodeID = node.id with
      | none => throw .nodeIdentityUsed
      | some owner =>
        Tx.require (owner.firstEnrollmentID = enrollmentID) .nodeIdentityUsed
        insertNode node
        Tx.require (t.Undecided operationID ∧ ∀ row ∈ t.requests, row.nodeID ≠ some node.id)
          (.text "approve enrollment request")
        modify fun t => t.settle enrollmentID (.approve ⟨reasonCode, operationID, actorID, now⟩ tags node.id)

def denyEnrollmentRequest (enrollmentID actorID operationID reasonCode : String) (now : Instant) : EnrollTx J Unit := do
  let t ← get
  match t.requests.find? fun row => row.id = enrollmentID with
  | none => throw .requestNotFound
  | some request =>
    Tx.require (request.status = .pending) .requestDecided
    Tx.require (t.Undecided operationID) (.text "deny enrollment request")
    modify fun t => t.settle enrollmentID (.deny ⟨reasonCode, operationID, actorID, now⟩)

def Tables.updateNode (t : Tables J) (id : String) (change : Node J → Node J) : Tables J :=
  { t with nodes := t.nodes.map fun row => if row.id = id then change row else row }

def Node.withStatus (status : NodeStatus) (now : Instant) (node : Node J) : Node J :=
  { node with status := status, revokedAt := if status = .revoked then some now else none }

def Node.named (name : String) (tags : List String) (node : Node J) : Node J :=
  { node with name := name, tags := tags }

def setNodeStatus (id : String) (status : NodeStatus) (now : Instant) : EnrollTx J Unit := do
  let t ← get
  match t.nodes.find? fun row => row.id = id with
  | none => throw .nodeNotFound
  | some node =>
    Tx.require (¬ (node.status = .revoked ∧ status ≠ .revoked)) .nodeRevoked
    modify fun t => t.updateNode id (.withStatus status now)

def updateNodeMetadata (id name : String) (tags : List String) : EnrollTx J Unit := do
  let t ← get
  Tx.require (∃ row ∈ t.nodes, row.id = id) .nodeNotFound
  modify fun t => t.updateNode id (.named name tags)

/-- The mutations that are committed together with an entry of the audit log. -/
inductive Mutation (J : Type) where
  | createEnrollmentToken (token : EnrollmentTokenRecord J)
  | submitEnrollmentRequest (tokenHash : List UInt8) (now : Instant) (record : EnrollmentRequestRecord J)
  | approveEnrollmentRequest (enrollmentID actorID operationID reasonCode : String) (tags : List String) (now : Instant)
      (node : Node J)
  | denyEnrollmentRequest (enrollmentID actorID operationID reasonCode : String) (now : Instant)
  | setNodeStatus (id : String) (status : NodeStatus) (now : Instant)
  | updateNodeMetadata (id name : String) (tags : List String)

def Mutation.tx : Mutation J → EnrollTx J Unit
  | createEnrollmentToken token => Enrollment.createEnrollmentToken token
  | submitEnrollmentRequest tokenHash now record => Enrollment.submitEnrollmentRequest tokenHash now record
  | approveEnrollmentRequest enrollmentID actorID operationID reasonCode tags now node =>
    Enrollment.approveEnrollmentRequest enrollmentID actorID operationID reasonCode tags now node
  | denyEnrollmentRequest enrollmentID actorID operationID reasonCode now =>
    Enrollment.denyEnrollmentRequest enrollmentID actorID operationID reasonCode now
  | setNodeStatus id status now => Enrollment.setNodeStatus id status now
  | updateNodeMetadata id name tags => Enrollment.updateNodeMetadata id name tags

/-! ## What a mutation that commits has done -/

inductive Moves (t : Tables J) : Mutation J → Tables J → Prop
  | created {token : EnrollmentTokenRecord J} (hoperation : ∀ row ∈ t.tokens, row.operationID ≠ token.operationID)
      (hfresh : ∀ row ∈ t.tokens, row.id ≠ token.id ∧ row.hash ≠ token.hash) :
      Moves t (.createEnrollmentToken token) { t with tokens := t.tokens ++ [{ token with consumed := none }] }
  | submitted {tokenHash : List UInt8} {now : Instant} {record : EnrollmentRequestRecord J}
      {token : EnrollmentTokenRecord J} (htoken : t.tokens.find? (fun row => row.hash = tokenHash) = some token)
      (hfree : token.consumed.isNone = true) (hparses : token.expiresAt.Parses) (hnow : now < token.expiresAt)
      (hkeys : ∀ row ∈ t.nodes, row.publicKey ≠ record.publicKey)
      (hclaim : ∀ row ∈ t.registry, row.nodeID ≠ record.proposedNodeID ∧ row.firstEnrollmentID ≠ record.id)
      (hapart : ∀ row ∈ t.requests, row.Apart (record.submitted token.id token.expiresAt)) :
      Moves t (.submitEnrollmentRequest tokenHash now record)
        (({ t with
            registry := t.registry ++ [⟨record.proposedNodeID, record.id, now⟩]
            requests := t.requests ++ [record.submitted token.id token.expiresAt] } : Tables J).consume tokenHash
          ⟨now, record.proposedNodeID, record.requestID, record.requestDigest⟩)
  | approved {enrollmentID actorID operationID reasonCode : String} {tags : List String} {now : Instant} {node : Node J}
      {request : EnrollmentRequestRecord J} {owner : Claim}
      (hrequest : t.requests.find? (fun row => row.id = enrollmentID) = some request) (hpending : request.status = .pending)
      (hparses : request.expiresAt.Parses) (hnow : now < request.expiresAt)
      (howner : t.registry.find? (fun row => row.nodeID = node.id) = some owner)
      (howns : owner.firstEnrollmentID = enrollmentID)
      (hnode : ∀ row ∈ t.nodes, row.id ≠ node.id ∧ row.publicKey ≠ node.publicKey) (hverdict : t.Undecided operationID) :
      Moves t (.approveEnrollmentRequest enrollmentID actorID operationID reasonCode tags now node)
        (({ t with nodes := t.nodes ++ [{ node with revokedAt := none }] } : Tables J).settle enrollmentID
          (.approve ⟨reasonCode, operationID, actorID, now⟩ tags node.id))
  | denied {enrollmentID actorID operationID reasonCode : String} {now : Instant} {request : EnrollmentRequestRecord J}
      (hrequest : t.requests.find? (fun row => row.id = enrollmentID) = some request) (hpending : request.status = .pending)
      (hverdict : t.Undecided operationID) :
      Moves t (.denyEnrollmentRequest enrollmentID actorID operationID reasonCode now)
        (t.settle enrollmentID (.deny ⟨reasonCode, operationID, actorID, now⟩))
  | status {id : String} {status : NodeStatus} {now : Instant} {node : Node J}
      (hnode : t.nodes.find? (fun row => row.id = id) = some node) (hkept : ¬ (node.status = .revoked ∧ status ≠ .revoked)) :
      Moves t (.setNodeStatus id status now) (t.updateNode id (.withStatus status now))
  | metadata {id name : String} {tags : List String} (hnode : ∃ row ∈ t.nodes, row.id = id) :
      Moves t (.updateNodeMetadata id name tags) (t.updateNode id (.named name tags))

section Does
variable {t t' : Tables J}

theorem createEnrollmentToken_moves {token : EnrollmentTokenRecord J}
    (h : (createEnrollmentToken token).Does t () t') : Moves t (.createEnrollmentToken token) t' := by
  rw [createEnrollmentToken, Tx.does_get_bind] at h
  simp only [Tx.does_bind, Tx.does_require, Tx.does_modify] at h
  obtain ⟨_, _, ⟨hoperation, rfl⟩, _, _, ⟨hfresh, rfl⟩, rfl⟩ := h
  exact .created hoperation hfresh

theorem submitEnrollmentRequest_moves {tokenHash : List UInt8} {now : Instant} {record : EnrollmentRequestRecord J}
    (h : (submitEnrollmentRequest tokenHash now record).Does t () t') :
    Moves t (.submitEnrollmentRequest tokenHash now record) t' := by
  rw [submitEnrollmentRequest, Tx.does_get_bind] at h
  cases htoken : t.tokens.find? fun row => row.hash = tokenHash with
  | none =>
    rw [htoken] at h
    exact absurd h Tx.does_throw
  | some token =>
    rw [htoken] at h
    simp only [claimNodeIdentity, Tx.does_bind, Tx.does_get, Tx.does_require, Tx.does_modify, Tx.does_lift,
      parseTime_eq_ok] at h
    obtain ⟨_, _, ⟨hfree, rfl⟩, _, _, ⟨⟨hparses, rfl⟩, rfl⟩, _, _, ⟨hnow, rfl⟩, _, _, ⟨⟨hkeys, -⟩, rfl⟩, _, _,
      ⟨_, _, ⟨rfl, rfl⟩, _, _, ⟨hclaim, rfl⟩, rfl⟩, _, _, ⟨hapart, rfl⟩, _, _, rfl, _, _, ⟨-, rfl⟩, rfl⟩ := h
    exact .submitted htoken hfree hparses hnow hkeys hclaim hapart

theorem approveEnrollmentRequest_moves {enrollmentID actorID operationID reasonCode : String} {tags : List String}
    {now : Instant} {node : Node J}
    (h : (approveEnrollmentRequest enrollmentID actorID operationID reasonCode tags now node).Does t () t') :
    Moves t (.approveEnrollmentRequest enrollmentID actorID operationID reasonCode tags now node) t' := by
  rw [approveEnrollmentRequest, Tx.does_get_bind] at h
  cases hrequest : t.requests.find? fun row => row.id = enrollmentID with
  | none =>
    rw [hrequest] at h
    exact absurd h Tx.does_throw
  | some request =>
    rw [hrequest] at h
    simp only [Tx.does_bind, Tx.does_require, Tx.does_lift, parseTime_eq_ok] at h
    obtain ⟨_, _, ⟨hpending, rfl⟩, _, _, ⟨⟨hparses, rfl⟩, rfl⟩, h⟩ := h
    split at h
    · simp only [Tx.does_bind, Tx.does_throw, and_false, exists_false] at h
    · rename_i hnow
      split at h
      · exact absurd h Tx.does_throw
      · rename_i owner howner
        simp only [insertNode, Tx.does_bind, Tx.does_get, Tx.does_require, Tx.does_modify] at h
        obtain ⟨_, _, ⟨howns, rfl⟩, _, _, ⟨_, _, ⟨rfl, rfl⟩, _, _, ⟨hnode, rfl⟩, rfl⟩, _, _, ⟨⟨hverdict, -⟩, rfl⟩, rfl⟩ := h
        exact .approved hrequest hpending hparses (not_not.mp hnow) howner howns hnode hverdict

theorem denyEnrollmentRequest_moves {enrollmentID actorID operationID reasonCode : String} {now : Instant}
    (h : (denyEnrollmentRequest enrollmentID actorID operationID reasonCode now).Does t () t') :
    Moves t (.denyEnrollmentRequest enrollmentID actorID operationID reasonCode now) t' := by
  rw [denyEnrollmentRequest, Tx.does_get_bind] at h
  cases hrequest : t.requests.find? fun row => row.id = enrollmentID with
  | none =>
    rw [hrequest] at h
    exact absurd h Tx.does_throw
  | some request =>
    rw [hrequest] at h
    simp only [Tx.does_bind, Tx.does_require, Tx.does_modify] at h
    obtain ⟨_, _, ⟨hpending, rfl⟩, _, _, ⟨hverdict, rfl⟩, rfl⟩ := h
    exact .denied hrequest hpending hverdict

theorem setNodeStatus_moves {id : String} {status : NodeStatus} {now : Instant}
    (h : (setNodeStatus id status now).Does t () t') : Moves t (.setNodeStatus id status now) t' := by
  rw [setNodeStatus, Tx.does_get_bind] at h
  cases hnode : t.nodes.find? fun row => row.id = id with
  | none =>
    rw [hnode] at h
    exact absurd h Tx.does_throw
  | some node =>
    rw [hnode] at h
    simp only [Tx.does_bind, Tx.does_require, Tx.does_modify] at h
    obtain ⟨_, _, ⟨hkept, rfl⟩, rfl⟩ := h
    exact .status hnode hkept

theorem updateNodeMetadata_moves {id name : String} {tags : List String}
    (h : (updateNodeMetadata id name tags).Does t () t') : Moves t (.updateNodeMetadata id name tags) t' := by
  rw [updateNodeMetadata, Tx.does_get_bind] at h
  simp only [Tx.does_bind, Tx.does_require, Tx.does_modify] at h
  obtain ⟨_, _, ⟨hnode, rfl⟩, rfl⟩ := h
  exact .metadata hnode

theorem moves_of_does {mutation : Mutation J} (h : mutation.tx.Does t () t') : Moves t mutation t' := by
  cases mutation with
  | createEnrollmentToken token => exact createEnrollmentToken_moves h
  | submitEnrollmentRequest tokenHash now record => exact submitEnrollmentRequest_moves h
  | approveEnrollmentRequest enrollmentID actorID operationID reasonCode tags now node =>
    exact approveEnrollmentRequest_moves h
  | denyEnrollmentRequest enrollmentID actorID operationID reasonCode now => exact denyEnrollmentRequest_moves h
  | setNodeStatus id status now => exact setNodeStatus_moves h
  | updateNodeMetadata id name tags => exact updateNodeMetadata_moves h

end Does
end AntiFlock.Enrollment
