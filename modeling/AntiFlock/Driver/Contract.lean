import AntiFlock.Driver.Basic
import AntiFlock.Go.Wire

set_option autoImplicit false

/-!
# The driver contract

The value types that cross the driver boundary and the checks each of them
carries. A `validate` returns the error of the first check that fails.
-/
namespace AntiFlock.Driver
open AntiFlock.Go

/-- `PlanOperationType`; a number without a name is kept as it was received. -/
inductive PlanOperationType where
  | unspecified
  | firewall
  | route
  | dns
  | mesh
  | service
  | exception
  | scramblerTransition
  | recovery
  | unknown (number : ℤ) (unnamed : number < 0 ∨ 8 < number)
deriving DecidableEq

namespace PlanOperationType

instance : Inhabited PlanOperationType := ⟨unspecified⟩

def number : PlanOperationType → ℤ
  | unspecified => 0
  | firewall => 1
  | route => 2
  | dns => 3
  | mesh => 4
  | service => 5
  | exception => 6
  | scramblerTransition => 7
  | recovery => 8
  | unknown n _ => n

def named : PlanOperationType → Bool
  | unspecified => false
  | unknown _ _ => false
  | _ => true

/-- The lower-case name without its `PLAN_OPERATION_TYPE_` lead. -/
def label : PlanOperationType → String
  | unspecified => "unspecified"
  | firewall => "firewall"
  | route => "route"
  | dns => "dns"
  | mesh => "mesh"
  | service => "service"
  | exception => "exception"
  | scramblerTransition => "scrambler_transition"
  | recovery => "recovery"
  | unknown n _ => toString n

end PlanOperationType

/-- The fields of a plan operation that a driver reads. -/
structure PlanOperation where
  id : String
  type : PlanOperationType
  target : String
  parameters : Wire.Struct
deriving Inhabited

structure Scope where
  operationType : PlanOperationType
  targets : List String
deriving DecidableEq, Inhabited

def firstError : List (Option Err) → Option Err
  | [] => none
  | none :: rest => firstError rest
  | some err :: _ => some err

theorem firstError_cons {check : Option Err} {rest : List (Option Err)} :
    firstError (check :: rest) = none ↔ check = none ∧ firstError rest = none := by
  cases check <;> simp [firstError]

theorem eq_none_of_firstError {checks : List (Option Err)} (h : firstError checks = none) :
    ∀ check ∈ checks, check = none := by
  induction checks with
  | nil => exact nofun
  | cons check rest ih => exact List.forall_mem_cons.mpr ((firstError_cons.mp h).imp_right ih)

def Scope.validate (scope : Scope) : Option Err :=
  if !scope.operationType.named then
    some ⟨.invalidRequest, "scope operation type is unspecified or unknown"⟩
  else if scope.targets.length > maxSnapshotEntries then
    some ⟨.invalidRequest, "scope names more than 4096 targets"⟩
  else firstError (scope.targets.map validateTarget)

structure SnapshotEntry where
  key : String
  value : String
deriving DecidableEq, Inhabited

structure Snapshot where
  schemaVersion : ℕ
  driverName : String
  scope : Scope
  entries : List SnapshotEntry
  capturedAt : Time
deriving DecidableEq, Inhabited

namespace Snapshot

def validateEntries : Option String → List SnapshotEntry → Option Err
  | _, [] => none
  | previous, entry :: rest =>
    match validateTarget entry.key with
    | some err => some (err.wrap "snapshot entry key")
    | none =>
      if len entry.value > maxSnapshotValueLength || !printableASCII entry.value then
        some ⟨.invalidRequest, "snapshot entry value is oversized or not printable ASCII"⟩
      else if previous.any fun key => !decide (key < entry.key) then
        some ⟨.invalidRequest, "snapshot entries must be sorted and unique by key"⟩
      else validateEntries (some entry.key) rest

def validate (snapshot : Snapshot) : Option Err :=
  if snapshot.schemaVersion ≠ contractVersion then
    some ⟨.invalidRequest, s!"snapshot schema version {snapshot.schemaVersion} is not 1"⟩
  else if !validIdentifier snapshot.driverName then
    some ⟨.invalidRequest, "snapshot driver name is not a bounded identifier"⟩
  else if let some err := snapshot.scope.validate then some err
  else if snapshot.entries.length > maxSnapshotEntries then
    some ⟨.invalidRequest, "snapshot exceeds 4096 entries"⟩
  else if let some err := validateEntries none snapshot.entries then some err
  else if isZero snapshot.capturedAt then
    some ⟨.invalidRequest, "snapshot captured-at is required"⟩
  else none

def digestValue (snapshot : Snapshot) : String :=
  let hasher := (newDigest "AntiFlock-DriverSnapshot-v1").uint snapshot.schemaVersion
  let hasher := (hasher.str snapshot.driverName).int snapshot.scope.operationType.number
  let hasher := hasher.strs (snapshot.scope.targets.insertionSort fun a b => ¬ b < a)
  let hasher := hasher.uint snapshot.entries.length
  (snapshot.entries.foldl (fun h entry => (h.str entry.key).str entry.value) hasher).hex

/-- The digest leaves the capture time out, so an unchanged host keeps it. -/
def digest (snapshot : Snapshot) : Except Err String :=
  match snapshot.validate with
  | some err => .error err
  | none => .ok snapshot.digestValue

theorem validate_eq_none {snapshot : Snapshot} : snapshot.validate = none ↔
    snapshot.schemaVersion = contractVersion ∧ validIdentifier snapshot.driverName = true ∧
      snapshot.scope.validate = none ∧ snapshot.entries.length ≤ maxSnapshotEntries ∧
      validateEntries none snapshot.entries = none ∧ snapshot.capturedAt ≠ 0 := by
  unfold validate
  cases snapshot.scope.validate with
  | some err => simp only [check_eq_none]; simp
  | none =>
    cases validateEntries none snapshot.entries with
    | some err => simp only [check_eq_none]; simp
    | none => simp only [check_eq_none]; simp [isZero]

theorem digest_eq_ok {snapshot : Snapshot} {digest : String} :
    snapshot.digest = .ok digest ↔ snapshot.validate = none ∧ snapshot.digestValue = digest := by
  unfold Snapshot.digest
  split
  case h_1 err herr => simp [herr]
  case h_2 hvalid => simp [hvalid]

end Snapshot

structure Diff where
  beforeDigest : String
  afterDigest : String
  lines : List String
deriving DecidableEq, Inhabited

def Diff.validate (diff : Diff) : Option Err :=
  if !validDigest diff.beforeDigest || !validDigest diff.afterDigest then
    some ⟨.invalidRequest, "diff digests must be hex SHA-256"⟩
  else if diff.lines.length > maxDiffLines then
    some ⟨.invalidRequest, "diff exceeds 4096 lines"⟩
  else if diff.lines.any fun line =>
      line == "" || len line > maxDiffLineLength || !printableASCII line then
    some ⟨.invalidRequest, "diff line is empty, oversized, or not printable ASCII"⟩
  else none

structure SimulationResult where
  operationID : String
  target : String
  snapshotDigest : String
  diff : Diff
  wouldSucceed : Bool
  reasonCodes : List String
deriving DecidableEq, Inhabited

def SimulationResult.validate (result : SimulationResult) : Option Err :=
  if !validIdentifier result.operationID then
    some ⟨.invalidRequest, "simulation operation id is not a bounded identifier"⟩
  else if let some err := validateTarget result.target then some err
  else if !validDigest result.snapshotDigest || result.snapshotDigest ≠ result.diff.beforeDigest then
    some ⟨.invalidRequest, "simulation snapshot digest must equal the diff before-digest"⟩
  else if let some err := result.diff.validate then some err
  else validateReasonCodes result.reasonCodes

/-- The replay identity of one plan revision on one node. -/
structure ReservationKey where
  planID : String
  policyRevision : ℕ
  planRevision : ℕ
  nonce : String
  fingerprint : String
deriving DecidableEq, Inhabited

namespace ReservationKey

def validate (key : ReservationKey) : Option Err :=
  if !validIdentifier key.planID then
    some ⟨.reservationInvalid, "reservation plan id is not a bounded identifier"⟩
  else if key.policyRevision = 0 || key.planRevision = 0 then
    some ⟨.reservationInvalid, "reservation policy and plan revisions are required"⟩
  else if !validIdentifier key.nonce || !validIdentifier key.fingerprint || len key.fingerprint > 256 then
    some ⟨.reservationInvalid, "reservation nonce and fingerprint must be bounded identifiers"⟩
  else none

def digestValue (key : ReservationKey) : String :=
  let hasher := (newDigest "AntiFlock-DriverReservation-v1").str key.planID
  let hasher := (hasher.uint key.policyRevision).uint key.planRevision
  ((hasher.str key.nonce).str key.fingerprint).hex

def digest (key : ReservationKey) : Except Err String :=
  match key.validate with
  | some err => .error err
  | none => .ok key.digestValue

end ReservationKey

structure ReservationToken where
  key : ReservationKey
  token : String
  issuedAt : Time
deriving DecidableEq, Inhabited

def ReservationToken.validate (token : ReservationToken) : Option Err :=
  match token.key.digest with
  | .error err => some err
  | .ok digest =>
    if token.token ≠ digest then
      some ⟨.reservationInvalid, "reservation token was not derived from its key"⟩
    else if isZero token.issuedAt then
      some ⟨.reservationInvalid, "reservation issued-at is required"⟩
    else none

/-- The check every plan-bound record makes of its identity. -/
def validIdentity (planID : String) (planRevision : ℕ) (operationID : String) : Bool :=
  validIdentifier planID && planRevision ≠ 0 && validIdentifier operationID

structure ApplyRequest where
  planID : String
  planRevision : ℕ
  operationID : String
  target : String
  operation : Option PlanOperation
  reservation : ReservationToken
  timeout : Duration
deriving Inhabited

def ApplyRequest.validate (request : ApplyRequest) : Option Err :=
  if !validIdentity request.planID request.planRevision request.operationID then
    some ⟨.invalidRequest, "apply plan id, revision and operation id are required"⟩
  else if let some err := validateTarget request.target then some err
  else match request.operation with
    | none => some ⟨.invalidRequest, "apply operation is required"⟩
    | some operation =>
      if operation.id ≠ request.operationID then
        some ⟨.invalidRequest, "apply operation id does not match the operation"⟩
      else if operation.target ≠ request.target then some ⟨.targetMismatch, ""⟩
      else if !operation.type.named then
        some ⟨.invalidRequest, "apply operation type is unspecified or unknown"⟩
      else if let some err := request.reservation.validate then some err
      else if request.reservation.key.planID ≠ request.planID ||
          request.reservation.key.planRevision ≠ request.planRevision then
        some ⟨.reservationInvalid, "reservation names a different plan id or revision"⟩
      else if request.timeout ≤ 0 || request.timeout > maxOperationTimeout then
        some ⟨.invalidRequest, "apply timeout must be within (0, 2m0s]"⟩
      else none

inductive Step where
  | none
  | capture
  | simulate
  | approve
  | reserve
  | apply
  | verify
  | record
  | commit
  | rollback
deriving DecidableEq, Inhabited, Repr

namespace Step

def number : Step → ℕ
  | none => 0
  | capture => 1
  | simulate => 2
  | approve => 3
  | reserve => 4
  | apply => 5
  | verify => 6
  | record => 7
  | commit => 8
  | rollback => 9

def valid (step : Step) : Bool := step ≠ none

def terminal (step : Step) : Bool := step = commit || step = rollback

end Step

inductive ReceiptKind where
  | unknown
  | apply
  | verify
  | rollback
  | recover
  | commit
deriving DecidableEq, Inhabited, Repr

def ReceiptKind.number : ReceiptKind → ℕ
  | unknown => 0
  | apply => 1
  | verify => 2
  | rollback => 3
  | recover => 4
  | commit => 5

structure Receipt where
  schemaVersion : ℕ
  kind : ReceiptKind
  planID : String
  planRevision : ℕ
  operationID : String
  target : String
  ownershipToken : String
  digest : String
  reasonCode : String
  at_ : Time
deriving DecidableEq, Inhabited

namespace Receipt

def validate (receipt : Receipt) : Option Err :=
  if receipt.schemaVersion ≠ contractVersion then
    some ⟨.invalidRequest, s!"receipt schema version {receipt.schemaVersion} is not 1"⟩
  else if receipt.kind = .unknown then some ⟨.invalidRequest, "receipt kind is unknown"⟩
  else if !validIdentity receipt.planID receipt.planRevision receipt.operationID then
    some ⟨.invalidRequest, "receipt plan id, revision and operation id are required"⟩
  else if let some err := if receipt.target ≠ "" then validateTarget receipt.target else none then
    some err
  else if !validIdentifier receipt.ownershipToken then
    some ⟨.invalidRequest, "receipt ownership token is not a bounded identifier"⟩
  else if !validDigest receipt.digest then
    some ⟨.invalidRequest, "receipt digest must be hex SHA-256"⟩
  else if !validReasonCode receipt.reasonCode then
    some ⟨.invalidRequest, "receipt reason code is not a bounded AF- identifier"⟩
  else if isZero receipt.at_ then some ⟨.invalidRequest, "receipt at is required"⟩
  else none

theorem validate_eq_none {receipt : Receipt} : receipt.validate = none ↔
    receipt.schemaVersion = contractVersion ∧ receipt.kind ≠ .unknown ∧
    validIdentity receipt.planID receipt.planRevision receipt.operationID = true ∧
    (receipt.target = "" ∨ validateTarget receipt.target = none) ∧
    validIdentifier receipt.ownershipToken = true ∧ validDigest receipt.digest = true ∧
    validReasonCode receipt.reasonCode = true ∧ receipt.at_ ≠ 0 := by
  have htarget : (receipt.target = "" ∨ validateTarget receipt.target = none) ↔
      (if receipt.target ≠ "" then validateTarget receipt.target else none) = none := by
    rw [optional_eq_none, not_not]
  rw [htarget]
  simp only [validate, check_eq_none]
  cases (if receipt.target ≠ "" then validateTarget receipt.target else none) with
  | some err => simp
  | none => simp [check_eq_none, isZero]

def contentDigestValue (receipt : Receipt) : String :=
  let hasher := (newDigest "AntiFlock-DriverReceipt-v1").uint receipt.schemaVersion
  let hasher := ((hasher.uint receipt.kind.number).str receipt.planID).uint receipt.planRevision
  let hasher := ((hasher.str receipt.operationID).str receipt.target).str receipt.ownershipToken
  (((hasher.str receipt.digest).str receipt.reasonCode).time receipt.at_).hex

def contentDigest (receipt : Receipt) : Except Err String :=
  match receipt.validate with
  | some err => .error err
  | none => .ok receipt.contentDigestValue

end Receipt

structure ApplyReceipt where
  planID : String
  planRevision : ℕ
  operationID : String
  target : String
  ownershipToken : String
  beforeDigest : String
  appliedDigest : String
  reasonCode : String
  startedAt : Time
  completedAt : Time
deriving DecidableEq, Inhabited

namespace ApplyReceipt

def validate (receipt : ApplyReceipt) : Option Err :=
  if !validIdentity receipt.planID receipt.planRevision receipt.operationID then
    some ⟨.invalidRequest, "apply receipt plan id, revision and operation id are required"⟩
  else if let some err := validateTarget receipt.target then some err
  else if !validIdentifier receipt.ownershipToken then
    some ⟨.invalidRequest, "apply receipt ownership token is not a bounded identifier"⟩
  else if !validDigest receipt.beforeDigest || !validDigest receipt.appliedDigest then
    some ⟨.invalidRequest, "apply receipt digests must be hex SHA-256"⟩
  else if !validReasonCode receipt.reasonCode then
    some ⟨.invalidRequest, "apply receipt reason code is not a bounded AF- identifier"⟩
  else if isZero receipt.startedAt || receipt.completedAt < receipt.startedAt then
    some ⟨.invalidRequest, "apply receipt timestamps are missing or inverted"⟩
  else none

def toReceipt (receipt : ApplyReceipt) : Receipt where
  schemaVersion := contractVersion
  kind := .apply
  planID := receipt.planID
  planRevision := receipt.planRevision
  operationID := receipt.operationID
  target := receipt.target
  ownershipToken := receipt.ownershipToken
  digest := receipt.appliedDigest
  reasonCode := receipt.reasonCode
  at_ := receipt.completedAt

end ApplyReceipt

structure VerificationResult where
  ownershipToken : String
  expectedDigest : String
  observedDigest : String
  verified : Bool
  reasonCodes : List String
  at_ : Time
deriving DecidableEq, Inhabited

def VerificationResult.validate (result : VerificationResult) : Option Err :=
  if !validIdentifier result.ownershipToken then
    some ⟨.invalidRequest, "verification ownership token is not a bounded identifier"⟩
  else if !validDigest result.expectedDigest || !validDigest result.observedDigest then
    some ⟨.invalidRequest, "verification digests must be hex SHA-256"⟩
  else if result.verified && result.expectedDigest ≠ result.observedDigest then
    some ⟨.invalidRequest, "verification cannot pass with differing digests"⟩
  else if isZero result.at_ then some ⟨.invalidRequest, "verification at is required"⟩
  else validateReasonCodes result.reasonCodes

structure RollbackRequest where
  planID : String
  planRevision : ℕ
  operationID : String
  ownershipToken : String
  timeout : Duration
deriving DecidableEq, Inhabited

def RollbackRequest.validate (request : RollbackRequest) : Option Err :=
  if !validIdentity request.planID request.planRevision request.operationID then
    some ⟨.invalidRequest, "rollback plan id, revision and operation id are required"⟩
  else if !validIdentifier request.ownershipToken then
    some ⟨.invalidRequest, "rollback ownership token is not a bounded identifier"⟩
  else if request.timeout ≤ 0 || request.timeout > maxOperationTimeout then
    some ⟨.invalidRequest, "rollback timeout must be within (0, 2m0s]"⟩
  else none

structure RollbackReceipt where
  planID : String
  planRevision : ℕ
  operationID : String
  ownershipToken : String
  restoredDigest : String
  alreadyRolledBack : Bool
  reasonCode : String
  at_ : Time
deriving DecidableEq, Inhabited

namespace RollbackReceipt

def validate (receipt : RollbackReceipt) : Option Err :=
  if !validIdentity receipt.planID receipt.planRevision receipt.operationID then
    some ⟨.invalidRequest, "rollback receipt plan id, revision and operation id are required"⟩
  else if !validIdentifier receipt.ownershipToken || !validDigest receipt.restoredDigest ||
      !validReasonCode receipt.reasonCode then
    some ⟨.invalidRequest, "rollback receipt token, digest or reason code is invalid"⟩
  else if isZero receipt.at_ then some ⟨.invalidRequest, "rollback receipt at is required"⟩
  else none

def toReceipt (receipt : RollbackReceipt) : Receipt where
  schemaVersion := contractVersion
  kind := .rollback
  planID := receipt.planID
  planRevision := receipt.planRevision
  operationID := receipt.operationID
  target := ""
  ownershipToken := receipt.ownershipToken
  digest := receipt.restoredDigest
  reasonCode := receipt.reasonCode
  at_ := receipt.at_

end RollbackReceipt

structure RecoveredOperation where
  planID : String
  planRevision : ℕ
  operationID : String
  ownershipToken : String
  step : Step
  reverted : Bool
  finished : Bool
deriving DecidableEq, Inhabited

structure RecoveryReport where
  operations : List RecoveredOperation
  reasonCodes : List String
  at_ : Time
deriving DecidableEq, Inhabited

def RecoveredOperation.validate (operation : RecoveredOperation) : Option Err :=
  if !validIdentity operation.planID operation.planRevision operation.operationID ||
      !validIdentifier operation.ownershipToken then
    some ⟨.invalidRequest, "recovered operation identity is invalid"⟩
  else if !operation.step.valid then
    some ⟨.invalidRequest, "recovered operation step is unknown"⟩
  else none

def RecoveryReport.validate (report : RecoveryReport) : Option Err :=
  if isZero report.at_ then some ⟨.invalidRequest, "recovery report at is required"⟩
  else if let some err := firstError (report.operations.map RecoveredOperation.validate) then some err
  else validateReasonCodes report.reasonCodes

/-- The ownership token is a function of the request, so that it can be derived
again from a journal. -/
def ownershipTokenFor (planID : String) (planRevision : ℕ) (operationID target : String)
    (reservationToken : String) : String :=
  let hasher := ((newDigest "AntiFlock-DriverOwnership-v1").str planID).uint planRevision
  (((hasher.str operationID).str target).str reservationToken).hex

def reasonApplied : String := "AF-DRIVER-APPLIED"
def reasonVerified : String := "AF-DRIVER-VERIFIED"
def reasonVerifyMismatch : String := "AF-DRIVER-VERIFY-MISMATCH"
def reasonRolledBack : String := "AF-DRIVER-ROLLED-BACK"
def reasonAlreadyRolled : String := "AF-DRIVER-ALREADY-ROLLED-BACK"
def reasonRecovered : String := "AF-DRIVER-RECOVERED"
def reasonRecoveryClean : String := "AF-DRIVER-RECOVERY-CLEAN"
def reasonSimulationOK : String := "AF-DRIVER-SIMULATION-OK"
def reasonSimulationNoop : String := "AF-DRIVER-SIMULATION-NOOP"
def reasonSimulationReject : String := "AF-DRIVER-SIMULATION-REJECTED"
def reasonRecoveryCommit : String := "AF-DRIVER-RECOVERY-COMMITTED"
def reasonRecoveryRollback : String := "AF-DRIVER-RECOVERY-ROLLED-BACK"
def reasonRecoveryAborted : String := "AF-DRIVER-RECOVERY-ABORTED"

end AntiFlock.Driver
