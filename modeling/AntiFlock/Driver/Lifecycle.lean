import AntiFlock.Effect.Logic
import AntiFlock.Driver.Journal
import AntiFlock.Driver.Stores

set_option autoImplicit false

/-!
# The driver lifecycle

Each method is a program over the ports the lifecycle is wired to: the clock,
the journal, the reservation and receipt stores and the driver. What a port
answers, and what is left of the world when the process dies at one, is up to
the handler the program is run under.
-/
namespace AntiFlock.Driver
open AntiFlock.Effect

inductive StoreCall where
  | journalBegin (record : JournalRecord)
  | journalAdvance (record : JournalRecord)
  | journalFinish (record : JournalRecord)
  | journalInFlight
  | journalRecords
  | reserve (key : ReservationKey)
  | release (token : ReservationToken) (terminal : Step) (result : List UInt8)
  | appendReceipt (receipt : Receipt)

inductive DriverCall where
  | capture (scope : Scope)
  | simulate (snapshot : Snapshot) (operation : PlanOperation)
  | apply (request : ApplyRequest)
  | verify (receipt : ApplyReceipt)
  | rollback (request : RollbackRequest)
  | recover

inductive PortCall where
  | clock
  | store (call : StoreCall)
  | driver (call : DriverCall)

@[reducible] def StoreCall.Out : StoreCall → Type
  | .journalBegin _ => Unit
  | .journalAdvance _ => Unit
  | .journalFinish _ => Unit
  | .journalInFlight => List JournalRecord
  | .journalRecords => List JournalRecord
  | .reserve _ => Reservation
  | .release _ _ _ => Unit
  | .appendReceipt _ => Unit

@[reducible] def DriverCall.Out : DriverCall → Type
  | .capture _ => Snapshot
  | .simulate _ _ => SimulationResult
  | .apply _ => ApplyReceipt
  | .verify _ => VerificationResult
  | .rollback _ => RollbackReceipt
  | .recover => RecoveryReport

@[reducible] def StoreCall.Ans (call : StoreCall) : Type := Except Err call.Out

@[reducible] def DriverCall.Ans (call : DriverCall) : Type := Except Err call.Out

@[reducible] def PortCall.Ans : PortCall → Type
  | .clock => Time
  | .store call => call.Ans
  | .driver call => call.Ans

@[reducible] def Port : Sig := ⟨PortCall, PortCall.Ans⟩

def clock : Prog Port Time := Prog.perform (S := Port) .clock
def store (call : StoreCall) : Prog Port call.Ans := Prog.perform (S := Port) (.store call)
def driver (call : DriverCall) : Prog Port call.Ans := Prog.perform (S := Port) (.driver call)

def maxStepTimeout : Duration := 120 * second

structure StepTimeouts where
  capture : Duration
  simulate : Duration
  reserve : Duration
  apply : Duration
  verify : Duration
  record : Duration
  rollback : Duration
deriving DecidableEq

def StepTimeouts.default : StepTimeouts where
  capture := 10 * second
  simulate := 5 * second
  reserve := 5 * second
  apply := 30 * second
  verify := 10 * second
  record := 5 * second
  rollback := 30 * second

def StepTimeouts.validate (timeouts : StepTimeouts) : Option Err :=
  firstError ([("capture", timeouts.capture), ("simulate", timeouts.simulate),
    ("reserve", timeouts.reserve), ("apply", timeouts.apply), ("verify", timeouts.verify),
    ("record", timeouts.record), ("rollback", timeouts.rollback)].map fun (name, value) =>
      if value ≤ 0 || value > maxStepTimeout then
        some ⟨.invalidRequest, name ++ " timeout must be within (0, 2m0s]"⟩
      else none)

theorem StepTimeouts.default_bounded : StepTimeouts.default.validate = none := by decide

/-- An externally produced authorisation for one operation. -/
structure Approval where
  planID : String
  planRevision : ℕ
  operationID : String
  target : String
  approverKind : String
  digest : String
deriving DecidableEq, Inhabited

def approvalDigest (planID : String) (planRevision : ℕ) (operationID target approverKind : String) :
    Except Err String :=
  if !validIdentity planID planRevision operationID || !validIdentifier approverKind then
    .error ⟨.invalidRequest,
      "approval plan id, revision, operation id and approver kind are required"⟩
  else match validateTarget target with
    | some err => .error err
    | none =>
      let hasher := ((newDigest "AntiFlock-DriverApproval-v1").str planID).uint planRevision
      .ok (((hasher.str operationID).str target).str approverKind).hex

def Approval.validate (approval : Approval) : Option Err :=
  match approvalDigest approval.planID approval.planRevision approval.operationID approval.target
      approval.approverKind with
  | .error err => some err
  | .ok digest =>
    if approval.digest ≠ digest then
      some ⟨.approvalMismatch, "approval digest does not match its fields"⟩
    else none

inductive LifecycleState where
  | idle
  | begun
  | captured
  | simulated
  | approved
  | reserved
  | applied
  | verified
  | recorded
  | committed
  | rolledBack
  | failed
deriving DecidableEq, Inhabited, Repr

namespace LifecycleState

def text : LifecycleState → String
  | idle => "IDLE"
  | begun => "BEGUN"
  | captured => "CAPTURED"
  | simulated => "SIMULATED"
  | approved => "APPROVED"
  | reserved => "RESERVED"
  | applied => "APPLIED"
  | verified => "VERIFIED"
  | recorded => "RECORDED"
  | committed => "COMMITTED"
  | rolledBack => "ROLLED_BACK"
  | failed => "FAILED"

def terminal : LifecycleState → Bool
  | idle => true
  | committed => true
  | rolledBack => true
  | _ => false

end LifecycleState

structure PlanRef where
  planID : String
  planRevision : ℕ
  operationID : String
deriving DecidableEq, Inhabited

def PlanRef.validate (ref : PlanRef) : Option Err :=
  if !validIdentity ref.planID ref.planRevision ref.operationID then
    some ⟨.invalidRequest, "plan id, revision and operation id are required"⟩
  else none

structure LifecycleRun where
  ref : PlanRef
  scope : Scope := default
  snapshot : Snapshot := default
  digest : String := ""
  simulation : SimulationResult := default
  operation : Option PlanOperation := none
  approval : Approval := default
  reservation : ReservationToken := default
  reserved : Bool := false
  receipt : ApplyReceipt := default
  applied : Bool := false
  verification : VerificationResult := default

def LifecycleRun.identity (run : LifecycleRun) : JournalIdentity :=
  ⟨run.ref.planID, run.ref.planRevision, run.ref.operationID⟩

/-- `run.operation.GetTarget()`. -/
def LifecycleRun.target (run : LifecycleRun) : String := (run.operation.map (·.target)).getD ""

/-- A lifecycle is only ever built over timeouts that passed their check. -/
structure Lifecycle where
  timeouts : StepTimeouts
  bounded : timeouts.validate = none
  state : LifecycleState
  run : Option LifecycleRun

/-- What a method hands back to its caller, with the lifecycle it leaves. -/
structure Returned (α : Type) where
  value : α
  err : Option Err
  lifecycle : Lifecycle

namespace Lifecycle

/-- `NewLifecycle`, or the restart of a process over the same ports. -/
def fresh (timeouts : StepTimeouts) (bounded : timeouts.validate = none) : Lifecycle :=
  ⟨timeouts, bounded, .idle, none⟩

def active (lc : Lifecycle) : Bool := lc.run.isSome && !lc.state.terminal

def require (lc : Lifecycle) (expected : LifecycleState) : Except Err LifecycleRun :=
  match lc.run with
  | none => .error ⟨.noActivePlan, ""⟩
  | some run =>
    if lc.state ≠ expected then
      .error ⟨.lifecycleOrder, "state is " ++ lc.state.text ++ ", expected " ++ expected.text⟩
    else .ok run

def refuse {α : Type} [Inhabited α] (lc : Lifecycle) (err : Err) : Returned α := ⟨default, some err, lc⟩

def fail {α : Type} [Inhabited α] (lc : Lifecycle) (err : Err) : Returned α :=
  ⟨default, some err, { lc with state := .failed }⟩

/-- `lc` with `run` in `state`. -/
def into (lc : Lifecycle) (state : LifecycleState) (run : LifecycleRun) : Lifecycle :=
  { lc with state := state, run := some run }

def entry (run : LifecycleRun) (kind : JournalKind) (step : Step) (ownership digest : String)
    (now : Time) : JournalRecord where
  schemaVersion := contractVersion
  kind := kind
  planID := run.ref.planID
  planRevision := run.ref.planRevision
  operationID := run.ref.operationID
  step := step
  ownershipToken := ownership
  digest := digest
  target := run.target
  reservation := if run.reserved then run.reservation.key else .zero
  at_ := now

def journalBegin (run : LifecycleRun) : Prog Port (Except Err Unit) := do
  let now ← clock
  store (.journalBegin (entry run .begin .capture "" "" now))

def journalAdvance (run : LifecycleRun) (step : Step) (ownership digest : String) :
    Prog Port (Except Err Unit) := do
  let now ← clock
  store (.journalAdvance (entry run .advance step ownership digest now))

def journalFinish (run : LifecycleRun) (step : Step) (ownership digest : String) :
    Prog Port (Except Err Unit) := do
  let now ← clock
  store (.journalFinish (entry run .finish step ownership digest now))

def begin_ (lc : Lifecycle) (ref : PlanRef) : Prog Port (Returned Unit) :=
  match ref.validate with
  | some err => return lc.refuse err
  | none =>
    if lc.active then return lc.refuse ⟨.planActive, ""⟩
    else do
      match ← store .journalInFlight with
      | .error err => return lc.refuse err
      | .ok inFlight =>
        if inFlight.length > 0 then
          return lc.refuse ⟨.recoveryPending, s!"{inFlight.length} in-flight journal entries"⟩
        else
          let run : LifecycleRun := { ref := ref }
          match ← journalBegin run with
          | .error err => return lc.refuse err
          | .ok () => return ⟨(), none, lc.into .begun run⟩

def capture (lc : Lifecycle) (scope : Scope) : Prog Port (Returned Snapshot) :=
  match lc.require .begun with
  | .error err => return lc.refuse err
  | .ok run =>
    match scope.validate with
    | some err => return lc.refuse err
    | none => do
      match ← driver (.capture scope) with
      | .error err => return lc.fail err
      | .ok snapshot =>
        match snapshot.digest with
        | .error err => return lc.fail err
        | .ok digest =>
          let run := { run with scope := scope, snapshot := snapshot, digest := digest }
          return ⟨snapshot, none, lc.into .captured run⟩

def simulate (lc : Lifecycle) (operation : Option PlanOperation) :
    Prog Port (Returned SimulationResult) :=
  match lc.require .captured with
  | .error err => return lc.refuse err
  | .ok run =>
    match operation.filter fun operation => operation.id = run.ref.operationID with
    | none => return lc.refuse ⟨.invalidRequest, "operation id does not match the active plan"⟩
    | some operation =>
      match validateTarget operation.target with
      | some err => return lc.refuse err
      | none => do
        match ← driver (.simulate run.snapshot operation) with
        | .error err => return lc.fail err
        | .ok result =>
          match result.validate with
          | some err => return lc.fail err
          | none =>
            if result.snapshotDigest ≠ run.digest || result.target ≠ operation.target ||
                result.operationID ≠ operation.id then
              return lc.fail ⟨.invalidRequest,
                "simulation is not bound to the captured snapshot and operation"⟩
            else
              let run := { run with simulation := result, operation := some operation }
              if !result.wouldSucceed then
                return ⟨result, some ⟨.simulationRejected, ""⟩, lc.into .failed run⟩
              else
                match ← journalAdvance run .simulate "" result.diff.afterDigest with
                | .error err => return ⟨default, some err, lc.into .failed run⟩
                | .ok () => return ⟨result, none, lc.into .simulated run⟩

def approve (lc : Lifecycle) (approval : Approval) : Prog Port (Returned Unit) :=
  match lc.require .simulated with
  | .error err => return lc.refuse err
  | .ok run =>
    match approval.validate with
    | some err => return lc.refuse err
    | none =>
      if approval.planID ≠ run.ref.planID || approval.planRevision ≠ run.ref.planRevision ||
          approval.operationID ≠ run.ref.operationID || approval.target ≠ run.target then
        return lc.refuse ⟨.approvalMismatch, ""⟩
      else do
        match ← journalAdvance run .approve "" approval.digest with
        | .error err => return lc.refuse err
        | .ok () => return ⟨(), none, lc.into .approved { run with approval := approval }⟩

def reserve (lc : Lifecycle) (key : ReservationKey) : Prog Port (Returned ReservationToken) :=
  match lc.require .approved with
  | .error err => return lc.refuse err
  | .ok run =>
    match key.validate with
    | some err => return lc.refuse err
    | none =>
      if key.planID ≠ run.ref.planID || key.planRevision ≠ run.ref.planRevision then
        return lc.refuse ⟨.reservationInvalid, "reservation key does not name the active plan"⟩
      else do
        match ← store (.reserve key) with
        | .error err => return lc.fail err
        | .ok reservation =>
          if reservation.replayed then
            return lc.fail ⟨.alreadyReserved, "plan already has a terminal result"⟩
          else
            let run := { run with reservation := reservation.token, reserved := true }
            match ← journalAdvance run .reserve "" reservation.token.token with
            | .error err => return ⟨default, some err, lc.into .failed run⟩
            | .ok () => return ⟨reservation.token, none, lc.into .reserved run⟩

def applyRequest (lc : Lifecycle) (run : LifecycleRun) : ApplyRequest where
  planID := run.ref.planID
  planRevision := run.ref.planRevision
  operationID := run.ref.operationID
  target := run.approval.target
  operation := run.operation
  reservation := run.reservation
  timeout := lc.timeouts.apply

def apply (lc : Lifecycle) : Prog Port (Returned ApplyReceipt) :=
  match lc.require .reserved with
  | .error err => return lc.refuse err
  | .ok run => do
    match ← driver (.capture run.scope) with
    | .error err => return lc.fail err
    | .ok current =>
      match current.digest with
      | .error err => return lc.fail err
      | .ok currentDigest =>
        if currentDigest ≠ run.digest then return lc.fail ⟨.hostDrift, ""⟩
        else
          match ← journalAdvance run .apply "" run.digest with
          | .error err => return lc.fail err
          | .ok () =>
            let request := lc.applyRequest run
            match ← driver (.apply request) with
            | .error err => return lc.fail err
            | .ok receipt =>
              match receipt.validate with
              | some err => return lc.fail err
              | none =>
                if receipt.planID ≠ run.ref.planID || receipt.planRevision ≠ run.ref.planRevision ||
                    receipt.operationID ≠ run.ref.operationID || receipt.target ≠ request.target ||
                    receipt.ownershipToken ≠ ownershipTokenFor run.ref.planID run.ref.planRevision
                      run.ref.operationID request.target run.reservation.token then
                  return lc.fail ⟨.invalidRequest, "apply receipt is not bound to the request"⟩
                else
                  let run := { run with receipt := receipt, applied := true }
                  match ← journalAdvance run .verify receipt.ownershipToken receipt.appliedDigest with
                  | .error err => return ⟨receipt, some err, lc.into .failed run⟩
                  | .ok () => return ⟨receipt, none, lc.into .applied run⟩

def verify (lc : Lifecycle) : Prog Port (Returned VerificationResult) :=
  match lc.require .applied with
  | .error err => return lc.refuse err
  | .ok run => do
    match ← driver (.verify run.receipt) with
    | .error err => return lc.fail err
    | .ok result =>
      match result.validate with
      | some err => return lc.fail err
      | none =>
        let run := { run with verification := result }
        if !result.verified || result.expectedDigest ≠ run.receipt.appliedDigest then
          return ⟨result, some ⟨.verificationFailed, ""⟩, lc.into .failed run⟩
        else return ⟨result, none, lc.into .verified run⟩

def verifyReceipt (run : LifecycleRun) (verification : VerificationResult) : Receipt where
  schemaVersion := contractVersion
  kind := .verify
  planID := run.ref.planID
  planRevision := run.ref.planRevision
  operationID := run.ref.operationID
  target := run.receipt.target
  ownershipToken := run.receipt.ownershipToken
  digest := verification.observedDigest
  reasonCode := reasonVerified
  at_ := verification.at_

def commitReceipt (run : LifecycleRun) (reason : String) (now : Time) : Receipt where
  schemaVersion := contractVersion
  kind := .commit
  planID := run.ref.planID
  planRevision := run.ref.planRevision
  operationID := run.ref.operationID
  target := run.receipt.target
  ownershipToken := run.receipt.ownershipToken
  digest := run.receipt.appliedDigest
  reasonCode := reason
  at_ := now

/-- A duplicate is tolerated, so that an interrupted step can be run again. -/
def appendReceipt (receipt : Receipt) : Prog Port (Except Err Unit) := do
  match ← store (.appendReceipt receipt) with
  | .error err => if err.kind = .receiptDuplicate then return .ok () else return .error err
  | .ok () => return .ok ()

def appendReceipts : List Receipt → Prog Port (Except Err Unit)
  | [] => return .ok ()
  | receipt :: rest => do
    match ← appendReceipt receipt with
    | .error err => return .error err
    | .ok () => appendReceipts rest

def record (lc : Lifecycle) : Prog Port (Returned Unit) :=
  match lc.require .verified with
  | .error err => return lc.refuse err
  | .ok run => do
    match ← journalAdvance run .record run.receipt.ownershipToken run.receipt.appliedDigest with
    | .error err => return lc.fail err
    | .ok () =>
      match ← appendReceipts [run.receipt.toReceipt, verifyReceipt run run.verification] with
      | .error err => return lc.fail err
      | .ok () => return ⟨(), none, { lc with state := .recorded }⟩

/-- The shared tail of a commit: receipt, release, journal finish. -/
def commitRun (run : LifecycleRun) (reason : String) : Prog Port (Except Err Unit) := do
  let now ← clock
  let receipt := commitReceipt run reason now
  match receipt.contentDigest with
  | .error err => return .error err
  | .ok digest =>
    match ← appendReceipt receipt with
    | .error err => return .error err
    | .ok () =>
      match ← store (.release run.reservation .commit (Go.bytes digest)) with
      | .error err => return .error err
      | .ok () =>
        journalFinish run .commit run.receipt.ownershipToken run.receipt.appliedDigest

def commit (lc : Lifecycle) : Prog Port (Returned Unit) :=
  match lc.require .recorded with
  | .error err => return lc.refuse err
  | .ok run => do
    match ← commitRun run reasonApplied with
    | .error err => return lc.fail err
    | .ok () => return ⟨(), none, { lc with state := .committed }⟩

def rollbackRequest (lc : Lifecycle) (run : LifecycleRun) : RollbackRequest where
  planID := run.ref.planID
  planRevision := run.ref.planRevision
  operationID := run.ref.operationID
  ownershipToken := run.receipt.ownershipToken
  timeout := lc.timeouts.rollback

def revertReceipt (receipt : RollbackReceipt) (reason : String) : Receipt :=
  { receipt.toReceipt with reasonCode := reason }

/-- The revert of an applied run: the driver's receipt and the result to store. -/
def revert (lc : Lifecycle) (run : LifecycleRun) (reason : String) :
    Prog Port (Except Err (RollbackReceipt × List UInt8)) :=
  if run.applied then do
    match ← driver (.rollback (lc.rollbackRequest run)) with
    | .error err =>
      -- A token the driver does not know: nothing was ever applied.
      if err.kind = .unknownOwnership then return .ok (default, []) else return .error err
    | .ok receipt =>
      match receipt.validate with
      | some err => return .error err
      | none =>
        match (revertReceipt receipt reason).contentDigest with
        | .error err => return .error err
        | .ok digest =>
          match ← appendReceipt (revertReceipt receipt reason) with
          | .error err => return .error err
          | .ok () => return .ok (receipt, Go.bytes digest)
  else return .ok (default, [])

def releaseRun (run : LifecycleRun) (terminal : Step) (result : List UInt8) :
    Prog Port (Except Err Unit) :=
  if run.reserved then store (.release run.reservation terminal result) else return .ok ()

def rollbackRun (lc : Lifecycle) (run : LifecycleRun) (reason : String) :
    Prog Port (Except Err RollbackReceipt) := do
  match ← lc.revert run reason with
  | .error err => return .error err
  | .ok (receipt, result) =>
    match ← releaseRun run .rollback result with
    | .error err => return .error err
    | .ok () =>
      match ← journalFinish run .rollback run.receipt.ownershipToken receipt.restoredDigest with
      | .error err => return .error err
      | .ok () => return .ok receipt

def rollback (lc : Lifecycle) : Prog Port (Returned RollbackReceipt) :=
  match lc.run with
  | none => return lc.refuse ⟨.noActivePlan, ""⟩
  | some run =>
    if lc.state.terminal then return lc.refuse ⟨.lifecycleOrder, "state is " ++ lc.state.text⟩
    else do
      match ← lc.rollbackRun run reasonRolledBack with
      | .error err => return lc.fail err
      | .ok receipt => return ⟨receipt, none, { lc with state := .rolledBack }⟩

/-- The run an in-flight entry describes before its step is looked at. -/
def recoveredRun (entry : JournalRecord) : Except Err LifecycleRun :=
  let run : LifecycleRun :=
    { ref := ⟨entry.planID, entry.planRevision, entry.operationID⟩
      operation := if entry.target ≠ "" then
        some ⟨entry.operationID, .unspecified, entry.target, ⟨[]⟩⟩ else none }
  if entry.reservation ≠ .zero then
    match entry.reservation.digest with
    | .error err => .error err
    | .ok digest =>
      .ok { run with reservation := ⟨entry.reservation, digest, entry.at_⟩, reserved := true }
  else .ok run

/-- The digest expected after the apply and the one recorded before it. -/
def journalledDigests (entry : JournalRecord) (records : List JournalRecord) : String × String :=
  records.foldl (fun (expected, before) record =>
    if record.identity ≠ entry.identity then (expected, before)
    else
      (if entry.step = .apply && record.step = .simulate then record.digest else expected,
       if entry.step ≠ .apply && record.step = .apply then record.digest else before))
    (entry.digest, entry.digest)

def recoveredReceipt (entry : JournalRecord) (records : List JournalRecord) (run : LifecycleRun) :
    ApplyReceipt where
  planID := entry.planID
  planRevision := entry.planRevision
  operationID := entry.operationID
  target := entry.target
  ownershipToken := ownershipTokenFor entry.planID entry.planRevision entry.operationID entry.target
    run.reservation.token
  beforeDigest := (journalledDigests entry records).2
  appliedDigest := (journalledDigests entry records).1
  reasonCode := reasonApplied
  startedAt := entry.at_
  completedAt := entry.at_

/-- The verification of a recovered apply, when the host still shows it. -/
def reverify (receipt : ApplyReceipt) : Prog Port (Except Err (Option VerificationResult)) :=
  match receipt.validate with
  | some _ => return .ok none
  | none => do
    match ← driver (.verify receipt) with
    | .error err => if err.kind = .unknownOwnership then return .ok none else return .error err
    | .ok verification =>
      if verification.validate = none ∧ verification.verified = true ∧
          verification.expectedDigest = receipt.appliedDigest then
        return .ok (some verification)
      else return .ok none

def recoverCommit (run : LifecycleRun) : Prog Port (Except Err Unit) := do
  match ← appendReceipts [run.receipt.toReceipt, verifyReceipt run run.verification] with
  | .error err => return .error err
  | .ok () => commitRun run reasonRecoveryCommit

/-- An entry at APPLY, VERIFY or RECORD: an apply may have happened. -/
def recoverApplied (lc : Lifecycle) (entry : JournalRecord) (records : List JournalRecord)
    (run : LifecycleRun) (operation : RecoveredOperation) :
    Prog Port (Except Err (RecoveredOperation × String)) :=
  if !run.reserved || entry.target = "" then
    return .error ⟨.journalCorrupt, "apply entry lacks reservation or target"⟩
  else do
    let receipt := recoveredReceipt entry records run
    let operation := { operation with ownershipToken := receipt.ownershipToken, finished := true }
    let run := { run with receipt := receipt, applied := true }
    match ← reverify receipt with
    | .error err => return .error err
    | .ok (some verification) =>
      match ← recoverCommit { run with verification := verification } with
      | .error err => return .error err
      | .ok () => return .ok (operation, reasonRecoveryCommit)
    | .ok none =>
      match ← lc.rollbackRun run reasonRecoveryRollback with
      | .error err => return .error err
      | .ok receipt =>
        let reverted := receipt.reasonCode = reasonRolledBack || receipt.alreadyRolledBack
        return .ok ({ operation with reverted := reverted }, reasonRecoveryRollback)

def beforeApply (step : Step) : Bool :=
  step = .capture || step = .simulate || step = .approve || step = .reserve

def recoverEntry (lc : Lifecycle) (entry : JournalRecord) (records : List JournalRecord) :
    Prog Port (Except Err (RecoveredOperation × String)) :=
  match recoveredRun entry with
  | .error err => return .error err
  | .ok run =>
    let operation : RecoveredOperation :=
      ⟨entry.planID, entry.planRevision, entry.operationID, "none", entry.step, false, false⟩
    if beforeApply entry.step then do
      match ← lc.rollbackRun run reasonRecoveryRollback with
      | .error err => return .error err
      | .ok _ => return .ok ({ operation with finished := true }, reasonRecoveryAborted)
    else lc.recoverApplied entry records run operation

def recoverEntries (lc : Lifecycle) (records : List JournalRecord) :
    List JournalRecord → List (RecoveredOperation × String) →
      Prog Port (Except Err (List (RecoveredOperation × String)))
  | [], done => return .ok done
  | entry :: rest, done => do
    match ← lc.recoverEntry entry records with
    | .error err => return .error err
    | .ok outcome => recoverEntries lc records rest (done ++ [outcome])

/-- The report of a pass, with its reason codes as a sorted set. -/
def report (now : Time) (outcomes : List (RecoveredOperation × String)) : RecoveryReport where
  operations := outcomes.map (·.1)
  reasonCodes := (outcomes.map (·.2)).dedup.insertionSort fun a b => ¬ b < a
  at_ := now

def recover (lc : Lifecycle) : Prog Port (Returned RecoveryReport) :=
  if lc.active then return lc.refuse ⟨.planActive, ""⟩
  else do
    let now ← clock
    match ← store .journalInFlight with
    | .error err => return lc.refuse err
    | .ok [] => return ⟨⟨[], [reasonRecoveryClean], now⟩, none, lc⟩
    | .ok inFlight =>
      match ← store .journalRecords with
      | .error err => return lc.refuse err
      | .ok records =>
        match ← driver .recover with
        | .error err => return lc.refuse err
        | .ok _ =>
          match ← lc.recoverEntries records inFlight [] with
          | .error err => return lc.refuse err
          | .ok outcomes =>
            match (report now outcomes).validate with
            | some err => return lc.refuse err
            | none => return ⟨report now outcomes, none, lc⟩

end Lifecycle

inductive Op where
  | begin (ref : PlanRef)
  | capture (scope : Scope)
  | simulate (operation : Option PlanOperation)
  | approve (approval : Approval)
  | reserve (key : ReservationKey)
  | apply
  | verify
  | record
  | commit
  | rollback
  | recover

/-- The error and the lifecycle a method leaves, without its value. -/
def Returned.outcome {α : Type} (r : Returned α) : Option Err × Lifecycle := (r.err, r.lifecycle)

def Op.perform (lc : Lifecycle) : Op → Prog Port (Option Err × Lifecycle)
  | .begin ref => return (← lc.begin_ ref).outcome
  | .capture scope => return (← lc.capture scope).outcome
  | .simulate operation => return (← lc.simulate operation).outcome
  | .approve approval => return (← lc.approve approval).outcome
  | .reserve key => return (← lc.reserve key).outcome
  | .apply => return (← lc.apply).outcome
  | .verify => return (← lc.verify).outcome
  | .record => return (← lc.record).outcome
  | .commit => return (← lc.commit).outcome
  | .rollback => return (← lc.rollback).outcome
  | .recover => return (← lc.recover).outcome

end AntiFlock.Driver
