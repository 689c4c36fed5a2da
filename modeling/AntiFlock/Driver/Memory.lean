import AntiFlock.Driver.World

set_option autoImplicit false

/-!
# The memory driver

The reference driver over a fake host. Its methods are programs over its
backing: every write to the host, to an ownership record or to the driver's own
journal is one request, and a process may die between any two of them.
-/
namespace AntiFlock.Driver.Memory
open AntiFlock.Effect AntiFlock.Go

structure RuleKey where
  type : PlanOperationType
  target : String
deriving DecidableEq, Inhabited

/-- What an apply found in the place of the rule it owns. -/
structure SavedState where
  key : RuleKey
  previous : String
  existed : Bool
deriving DecidableEq, Inhabited

/-- The durable state every instance of the driver shares. -/
structure Backing where
  journal : JournalState
  rules : Map RuleKey String
  saved : Map String SavedState
  rolled : Map String RuleKey

def maxHostRules : ℕ := maxSnapshotEntries
def maxSavedRecords : ℕ := maxJournalRecords

inductive DiskCall where
  | clock
  | contextErr
  /-- The compare-and-swap of the crash hook. -/
  | crashArmed
  | load
  | journalBegin (record : JournalRecord)
  | journalFinish (record : JournalRecord)
  | journalInFlight
  | setRule (key : RuleKey) (value : String)
  | clearRule (key : RuleKey)
  | save (token : String) (state : SavedState)
  | unsave (token : String)
  | markRolled (token : String) (key : RuleKey)

@[reducible] def DiskCall.Ans : DiskCall → Type
  | .clock => Time
  | .contextErr => Option Err
  | .crashArmed => Bool
  | .load => Backing
  | .journalBegin _ => Except Err Unit
  | .journalFinish _ => Except Err Unit
  | .journalInFlight => Except Err (List JournalRecord)
  | _ => Unit

@[reducible] def Disk : Sig := ⟨DiskCall, DiskCall.Ans⟩

abbrev Attempt := ExceptT Err (Prog Disk)

def disk (call : DiskCall) : Attempt call.Ans := ExceptT.lift (Prog.perform (S := Disk) call)

def journalFinish (record : JournalRecord) : Attempt Unit :=
  ExceptT.mk (Prog.perform (S := Disk) (.journalFinish record))

def ofExcept {α : Type} (r : Except Err α) : Attempt α := ExceptT.mk (.ret r)

def check : Option Err → Attempt Unit
  | none => pure ()
  | some err => throw err

def inFlight : Attempt (List JournalRecord) := do
  match ← disk .journalInFlight with
  | .ok records => pure records
  | .error err => throw (if err.kind = .journalCorrupt then err else ⟨.journalCorrupt, err.text⟩)

def entryBefore (a b : SnapshotEntry) : Prop := ¬ b.key < a.key

instance : DecidableRel entryBefore := fun a b => inferInstanceAs (Decidable (¬ b.key < a.key))

def capture (rules : Map RuleKey String) (scope : Scope) : List SnapshotEntry :=
  (rules.entries.filterMap fun rule =>
    if rule.1.type ≠ scope.operationType then none
    else if scope.targets ≠ [] ∧ rule.1.target ∉ scope.targets then none
    else some ⟨rule.1.target, rule.2⟩).insertionSort entryBefore

def snapshot (name : String) (rules : Map RuleKey String) (scope : Scope) (now : Time) : Snapshot :=
  ⟨contractVersion, name, scope, capture rules scope, now⟩

def render (operation : PlanOperation) : String :=
  operation.type.label ++ ":" ++ hexEncode ((Sha256.sum256 operation.parameters.encode).take 8)

def validOperation (operation : PlanOperation) : Option Err :=
  if !operation.type.named then
    some ⟨.invalidRequest, "operation type is unspecified or unknown"⟩
  else if trimSpace operation.id = "" || len operation.id > maxIdentifierLength then
    some ⟨.invalidRequest, "operation id is required"⟩
  else validateTarget operation.target

def reasonTypeMismatch : String := "AF-DRIVER-MEMORY-TYPE-MISMATCH"

/-- The entries after an operation wrote `value`, and the line that describes the change. -/
def simulateEntries (entries : List SnapshotEntry) (target value : String) :
    List SnapshotEntry × String :=
  match entries.find? fun entry => entry.key = target with
  | none =>
    ((entries ++ [(⟨target, value⟩ : SnapshotEntry)]).insertionSort entryBefore,
      "+ " ++ target ++ " = " ++ value)
  | some entry =>
    if entry.value = value then (entries, "= " ++ target ++ " unchanged")
    else
      (entries.set (entries.findIdx fun entry => entry.key = target) ⟨entry.key, value⟩,
        "~ " ++ target ++ ": " ++ entry.value ++ " -> " ++ value)

/-- `Simulate` behind its context check: a function of the snapshot and the operation. -/
def simulation (before : Snapshot) (operation : PlanOperation) : Except Err SimulationResult :=
  match validOperation operation with
  | some err => .error err
  | none =>
    match before.digest with
    | .error err => .error err
    | .ok beforeDigest =>
      if operation.type ≠ before.scope.operationType then
        .ok ⟨operation.id, operation.target, beforeDigest,
          ⟨beforeDigest, beforeDigest, ["! operation type does not match the captured scope"]⟩, false,
          [reasonSimulationReject, reasonTypeMismatch]⟩
      else
        let (entries, line) := simulateEntries before.entries operation.target (render operation)
        match { before with entries := entries }.digest with
        | .error err => .error err
        | .ok afterDigest =>
          let result : SimulationResult := ⟨operation.id, operation.target, beforeDigest,
            ⟨beforeDigest, afterDigest, [line]⟩, true,
            [if afterDigest = beforeDigest then reasonSimulationNoop else reasonSimulationOK]⟩
          match result.validate with
          | some err => .error err
          | none => .ok result

structure Config where
  name : String
  valid : validIdentifier name = true

section Methods
variable (config : Config)

def captureMethod (scope : Scope) : Attempt Snapshot := do
  check (← disk .contextErr)
  check scope.validate
  let backing ← disk .load
  let now ← disk .clock
  let snapshot := snapshot config.name backing.rules scope now
  check snapshot.validate
  return snapshot

def simulateMethod (before : Snapshot) (operation : PlanOperation) : Attempt SimulationResult := do
  check (← disk .contextErr)
  ofExcept (simulation before operation)

def ruleScope (key : RuleKey) : Scope := ⟨key.type, [key.target]⟩

def applyRecord (request : ApplyRequest) (step : Step) (token digest : String) (now : Time) :
    JournalRecord where
  schemaVersion := contractVersion
  kind := .unknown
  planID := request.planID
  planRevision := request.planRevision
  operationID := request.operationID
  step := step
  ownershipToken := token
  digest := digest
  target := ""
  reservation := .zero
  at_ := now

def requestToken (request : ApplyRequest) : String :=
  ownershipTokenFor request.planID request.planRevision request.operationID request.target
    request.reservation.token

/-- The tail of an apply, behind the journal's `Begin`: mutate, then finish. -/
def mutate (request : ApplyRequest) (operation : PlanOperation) (before : String)
    (startedAt : Time) : Attempt ApplyReceipt := do
  let key : RuleKey := ⟨operation.type, request.target⟩
  let token := requestToken request
  disk (.setRule key (render operation))
  if ← disk .crashArmed then throw ⟨.crashInjected, ""⟩
  else
    let backing ← disk .load
    let capturedAt ← disk .clock
    let appliedDigest ← ofExcept (snapshot config.name backing.rules (ruleScope key) capturedAt).digest
    let completedAt ← disk .clock
    journalFinish (applyRecord request .commit token appliedDigest completedAt)
    let receipt : ApplyReceipt := ⟨request.planID, request.planRevision, request.operationID,
      request.target, token, before, appliedDigest, reasonApplied, startedAt, completedAt⟩
    check receipt.validate
    return receipt

def applyMethod (request : ApplyRequest) : Attempt ApplyReceipt := do
  check request.validate
  check (← disk .contextErr)
  let _ ← inFlight
  match request.operation with
  | none => throw ⟨.invalidRequest, "apply operation is required"⟩
  | some operation =>
    let key : RuleKey := ⟨operation.type, request.target⟩
    let startedAt ← disk .clock
    let backing ← disk .load
    let simulation ← simulateMethod (snapshot config.name backing.rules (ruleScope key) startedAt) operation
    check (if !simulation.wouldSucceed then
      some ⟨.invalidRequest, String.intercalate "," simulation.reasonCodes⟩ else none)
    check (if backing.rules.entries.length ≥ maxHostRules ||
        backing.saved.entries.length ≥ maxSavedRecords then
      some ⟨.invalidRequest, "fake host is full"⟩ else none)
    let token := requestToken request
    let previous := backing.rules.lookup key
    disk (.save token ⟨key, previous.getD "", previous.isSome⟩)
    let record := applyRecord request .apply token simulation.snapshotDigest startedAt
    match ← disk (.journalBegin record) with
    | .error err =>
      disk (.unsave token)
      throw err
    | .ok () =>
      match ← disk .contextErr with
      | some err =>
        disk (.unsave token)
        let _ ← disk (.journalFinish { record with step := .rollback })
        throw err
      | none => mutate config request operation simulation.snapshotDigest startedAt

def ownedKey (backing : Backing) (token : String) : Option RuleKey :=
  match backing.saved.lookup token with
  | some saved => some saved.key
  | none => backing.rolled.lookup token

def verifyMethod (receipt : ApplyReceipt) : Attempt VerificationResult := do
  check receipt.validate
  check (← disk .contextErr)
  let backing ← disk .load
  match ownedKey backing receipt.ownershipToken with
  | none => throw ⟨.unknownOwnership, ""⟩
  | some key =>
    let now ← disk .clock
    let digest ← ofExcept (snapshot config.name backing.rules (ruleScope key) now).digest
    let verified : Bool := digest = receipt.appliedDigest
    return ⟨receipt.ownershipToken, receipt.appliedDigest, digest, verified,
      [if verified then reasonVerified else reasonVerifyMismatch], now⟩

def revertRule (saved : SavedState) : Attempt Unit :=
  if saved.existed then disk (.setRule saved.key saved.previous) else disk (.clearRule saved.key)

/-- Reverts the rule an ownership record names and marks its token rolled back. -/
def restore (token : String) : Attempt (Option RuleKey) := do
  let backing ← disk .load
  match backing.saved.lookup token with
  | none => return none
  | some saved =>
    revertRule saved
    disk (.unsave token)
    disk (.markRolled token saved.key)
    return some saved.key

/-- The record with which an entry is closed as rolled back. -/
def rollbackRecord (planID : String) (planRevision : ℕ) (operationID token : String) (now : Time) :
    JournalRecord :=
  ⟨contractVersion, .unknown, planID, planRevision, operationID, .rollback, token, "", "", .zero, now⟩

def closeOpenEntry (request : RollbackRequest) (now : Time) : Attempt Unit := do
  let records ← inFlight
  match records.find? fun record => record.planID = request.planID &&
      record.planRevision = request.planRevision && record.operationID = request.operationID with
  | none => return ()
  | some _ => journalFinish (rollbackRecord request.planID request.planRevision request.operationID
      request.ownershipToken now)

/-- The receipt of a rollback of `key`, read off the host. -/
def rollbackReceipt (request : RollbackRequest) (key : RuleKey) (already : Bool) (now : Time) :
    Attempt RollbackReceipt := do
  let backing ← disk .load
  let digest ← ofExcept (snapshot config.name backing.rules (ruleScope key) now).digest
  let receipt : RollbackReceipt := ⟨request.planID, request.planRevision, request.operationID,
    request.ownershipToken, digest, already, if already then reasonAlreadyRolled else reasonRolledBack, now⟩
  check receipt.validate
  return receipt

def rollbackMethod (request : RollbackRequest) : Attempt RollbackReceipt := do
  check request.validate
  check (← disk .contextErr)
  let _ ← inFlight
  let now ← disk .clock
  let backing ← disk .load
  match backing.rolled.lookup request.ownershipToken with
  | some key => rollbackReceipt config request key true now
  | none =>
    match ← restore request.ownershipToken with
    | none => throw ⟨.unknownOwnership, ""⟩
    | some key =>
      closeOpenEntry request now
      rollbackReceipt config request key false now

/-- An entry without an ownership token reverts nothing. -/
def restoreOwned (token : String) : Attempt (Option RuleKey) :=
  if token ≠ "" then restore token else pure none

/-- One open entry of a recovery: revert it through its ownership record and close it. -/
def recoverRecord (now : Time) (record : JournalRecord) : Attempt RecoveredOperation := do
  let reverted ← restoreOwned record.ownershipToken
  journalFinish (rollbackRecord record.planID record.planRevision record.operationID
    record.ownershipToken now)
  return ⟨record.planID, record.planRevision, record.operationID,
    if record.ownershipToken = "" then "none" else record.ownershipToken, record.step,
    reverted.isSome, true⟩

def recoverRecords (now : Time) :
    List JournalRecord → List RecoveredOperation → Attempt (List RecoveredOperation)
  | [], operations => return operations
  | record :: rest, operations => do
    let operation ← recoverRecord now record
    recoverRecords now rest (operations ++ [operation])

def recoverMethod : Attempt RecoveryReport := do
  check (← disk .contextErr)
  let records ← inFlight
  let now ← disk .clock
  let operations ← recoverRecords now records []
  let report : RecoveryReport :=
    ⟨operations, [if operations = [] then reasonRecoveryClean else reasonRecovered], now⟩
  check report.validate
  return report

def serve : (call : DriverCall) → Prog Disk call.Ans
  | .capture scope => (captureMethod config scope).run
  | .simulate before operation => (simulateMethod before operation).run
  | .apply request => (applyMethod config request).run
  | .verify receipt => (verifyMethod config receipt).run
  | .rollback request => (rollbackMethod config request).run
  | .recover => recoverMethod.run

end Methods

namespace Backing

def write (backing : Backing) : Except Err JournalState → Except Err Unit × Backing
  | .error err => (.error err, backing)
  | .ok journal => (.ok (), { backing with journal := journal })

end Backing

/-- Requests of the driver to its backing. Journal calls are refused, if at all, before they
take effect; undisturbed, no context is done, no crash is armed and no clock reads zero. -/
def backingHandler (faults : Faults) : Handler Disk Backing where
  step
    | .clock, b, now, b' => b' = b ∧ (faults = .none → now ≠ 0)
    | .contextErr, b, done, b' => b' = b ∧ (faults = .none → done = none) ∧
        ∀ err, done = some err → err.kind = .contextDone
    | .crashArmed, b, armed, b' => b' = b ∧ (faults = .none → armed = false)
    | .load, b, answer, b' => answer = b ∧ b' = b
    | .journalBegin record, b, answer, b' =>
      Served faults (b.write (b.journal.begin_ record)) b answer b'
    | .journalFinish record, b, answer, b' =>
      Served faults (b.write (b.journal.finish record)) b answer b'
    | .journalInFlight, b, answer, b' => Served faults (.ok b.journal.inFlight, b) b answer b'
    | .setRule key value, b, _, b' => b' = { b with rules := b.rules.insert key value }
    | .clearRule key, b, _, b' => b' = { b with rules := b.rules.erase key }
    | .save token state, b, _, b' => b' = { b with saved := b.saved.insert token state }
    | .unsave token, b, _, b' => b' = { b with saved := b.saved.erase token }
    | .markRolled token key, b, _, b' => b' = { b with rolled := b.rolled.insert token key }
  torn _ _ _ := False

/-- The memory driver; a reopened instance has the same backing. -/
def model (config : Config) (faults : Faults) : DriverModel Backing where
  calls := (backingHandler faults).implement (serve config)
  reopen b b' := b' = b

/-- The undisturbed backing as a function, with the clock standing at `now`. -/
def Backing.answer (now : Time) : (call : DiskCall) → Backing → call.Ans × Backing
  | .clock, b => (now, b)
  | .contextErr, b => (none, b)
  | .crashArmed, b => (false, b)
  | .load, b => (b, b)
  | .journalBegin record, b => b.write (b.journal.begin_ record)
  | .journalFinish record, b => b.write (b.journal.finish record)
  | .journalInFlight, b => (.ok b.journal.inFlight, b)
  | .setRule key value, b => ((), { b with rules := b.rules.insert key value })
  | .clearRule key, b => ((), { b with rules := b.rules.erase key })
  | .save token state, b => ((), { b with saved := b.saved.insert token state })
  | .unsave token, b => ((), { b with saved := b.saved.erase token })
  | .markRolled token key, b => ((), { b with rolled := b.rolled.insert token key })

theorem Backing.answer_step {faults : Faults} {now : Time} (h : now ≠ 0) (call : DiskCall)
    (b : Backing) :
    (backingHandler faults).step call b (b.answer now call).1 (b.answer now call).2 := by
  cases call with
  | clock => exact ⟨rfl, fun _ => h⟩
  | contextErr => exact ⟨rfl, fun _ => rfl, nofun⟩
  | crashArmed => exact ⟨rfl, fun _ => rfl⟩
  | load => exact ⟨rfl, rfl⟩
  | journalBegin record => exact .served
  | journalFinish record => exact .served
  | journalInFlight => exact .served
  | _ => rfl

/-- The undisturbed ports of a lifecycle over the memory driver as a function. -/
def answer (config : Config) (now : Time) : (q : PortCall) → World Backing → q.Ans × World Backing
  | .clock, w => (now, w)
  | .store call, w => ((w.stores.serve now call).1, ⟨(w.stores.serve now call).2, w.driver⟩)
  | .driver call, w =>
    (((serve config call).run (fun q b => b.answer now q) w.driver).1,
      ⟨w.stores, ((serve config call).run (fun q b => b.answer now q) w.driver).2⟩)

theorem answer_step {faults : Faults} {now : Time} (config : Config) (h : now ≠ 0) (q : PortCall)
    (w : World Backing) : (ports (model config faults) faults).step q w (answer config now q w).1
      (answer config now q w).2 := by
  cases q with
  | clock => exact ⟨rfl, fun _ => h⟩
  | store call => exact ⟨now, _, fun _ => h, .served, rfl⟩
  | driver call => exact ⟨_, Prog.exec_run (fun q b => b.answer_step h q) _ _, rfl⟩

/-- The process after a list of calls, all of which return. -/
def play (config : Config) (now : Time) : List Op → Process Backing → Process Backing
  | [], p => p
  | op :: ops, p =>
    play config now ops ⟨((op.perform p.lifecycle).run (answer config now) p.world).1.2,
      ((op.perform p.lifecycle).run (answer config now) p.world).2⟩

theorem play_reachable {init : Process Backing → Prop} {faults : Faults} {now : Time} (config : Config)
    (hnow : now ≠ 0) (ops : List Op) {p : Process Backing}
    (h : Reachable init (Process.Step (model config faults) faults) p) :
    Reachable init (Process.Step (model config faults) faults) (play config now ops p) := by
  induction ops generalizing p with
  | nil => exact h
  | cons op ops ih => exact ih (h.next (.returned (Prog.exec_run (answer_step config hnow) _ _)))

/-- The process that starts again after `op` died behind its first `n` requests. -/
def crash (config : Config) (now : Time) (op : Op) (n : ℕ) (p : Process Backing) : Process Backing :=
  ⟨.fresh p.lifecycle.timeouts p.lifecycle.bounded,
    (op.perform p.lifecycle).cut (answer config now) n p.world⟩

theorem crash_dies {faults : Faults} {now : Time} (config : Config) (hnow : now ≠ 0) (op : Op) (n : ℕ)
    (p : Process Backing) : p.Dies (model config faults) faults (crash config now op n p) :=
  ⟨p.lifecycle.bounded, Prog.exec_cut (answer_step config hnow) n _ _, rfl⟩

def newProcess : Process Backing :=
  ⟨.fresh .default StepTimeouts.default_bounded, ⟨⟨⟨[]⟩, ⟨⟨0, 0⟩, ∅⟩, ⟨[], []⟩⟩, ⟨⟨[]⟩, ∅, ∅, ∅⟩⟩⟩

theorem newProcess_initial : newProcess.Initial := ⟨rfl, rfl, rfl, .default, StepTimeouts.default_bounded, rfl⟩

def sampleConfig : Config := ⟨"memory", by decide⟩

def sampleOperation : PlanOperation := ⟨"op-1", .firewall, "tcp/22", ⟨[]⟩⟩

def sampleApproval : Approval :=
  ⟨"plan-1", 7, "op-1", "tcp/22", "operator",
    (approvalDigest "plan-1" 7 "op-1" "tcp/22" "operator").toOption.getD ""⟩

def sampleKey : ReservationKey := ⟨"plan-1", 3, 7, "nonce", "fingerprint"⟩

def approvedCalls : List Op :=
  [.begin ⟨"plan-1", 7, "op-1"⟩, .capture ⟨.firewall, []⟩, .simulate (some sampleOperation),
    .approve sampleApproval]

end AntiFlock.Driver.Memory
