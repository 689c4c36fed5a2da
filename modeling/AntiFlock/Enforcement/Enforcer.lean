import AntiFlock.Effect.Trace
import AntiFlock.Enforcement.StateStore
import AntiFlock.Events.Signing
import AntiFlock.Posture.Engine
import Mathlib.Data.List.ReduceOption

set_option autoImplicit false

/-!
# The enforcer

`Apply` makes one transaction of a plan: it validates and reserves the plan, runs its
preconditions, its actions and its verifications against the driver, and undoes them if
one does not go well. The driver may answer anything. What is asked of it and in which
order is the same for every driver, store and clock.
-/
namespace AntiFlock.Enforcement
open AntiFlock.Effect AntiFlock.Go
open AntiFlock.Events (Timestamp asTime checkValid signatureFields timestamp)
open AntiFlock.Posture (EvidenceClass)
open AntiFlock.Proto (Sensitivity Signature minute)
open AntiFlock.Storage (IntegrityDigest confidenceValid)

/-! ## Plans and what the driver reports -/

inductive CheckOutcome where
  | unspecified
  | pending
  | passed
  | failed
  | unknown
  | skipped
  | unlisted (number : ℤ)
deriving DecidableEq

inductive EvidenceRole where
  | unspecified
  | supporting
  | contradicting
  | context
  | unlisted (number : ℤ)
deriving DecidableEq

inductive EvidenceSourceType where
  | unspecified
  | localSensor
  | authorizedGateway
  | providerApi
  | publicRecord
  | publicDataset
  | communityReport
  | trustedReviewer
  | deterministicRule
  | operatorDeclaration
  | unlisted (number : ℤ)
deriving DecidableEq

structure EvidenceReference where
  id : String
  role : EvidenceRole
  classification : EvidenceClass
  sourceType : EvidenceSourceType
  sourceName : String
  observedAt : Option Timestamp
  lastVerifiedAt : Option Timestamp
  expiresAt : Option Timestamp
  confidence : UInt32
  sensitivity : Sensitivity
  summary : String
  integrity : Option IntegrityDigest
  /-- It has fields that its type does not know. -/
  unknownFields : Bool
deriving DecidableEq

structure PlanCheck where
  id : String
  required : Bool

structure PlanOperation where
  id : String

structure Plan where
  id : String
  revision : ℕ
  policyRevision : ℕ
  /-- The digest that its signature covers, if it has one. -/
  signedContentDigest : Option IntegrityDigest
  preconditions : List PlanCheck
  actions : List PlanOperation
  verifications : List PlanCheck
  rollback : List PlanOperation

structure CheckObservation where
  outcome : CheckOutcome
  reasonCode : String
  safeMessage : String
  evidence : List (Option EvidenceReference)

structure OperationObservation where
  succeeded : Bool
  reasonCode : String
  safeMessage : String

/-- What a check gave, nothing if the driver failed, panicked or took too long, and the time then. -/
structure CheckAnswer where
  observation : Option CheckObservation
  checkedAt : Instant

structure OperationAnswer where
  startedAt : Instant
  observation : Option OperationObservation
  completedAt : Instant

/-! ## Results -/

/-- The states that the enforcer leaves a plan in. -/
inductive PlanStatus where
  | unspecified
  | committed
  | failed
  | rolledBack
  | rejected
deriving DecidableEq

structure CheckResult where
  checkId : String
  outcome : CheckOutcome
  reasonCode : String
  safeMessage : String
  checkedAt : Timestamp
  evidence : List EvidenceReference
deriving DecidableEq

structure OperationResult where
  operationId : String
  startedAt : Timestamp
  completedAt : Timestamp
  succeeded : Bool
  reasonCode : String
  safeMessage : String
deriving DecidableEq

structure PlanExecutionResult where
  planId : String
  nodeId : String
  planRevision : ℕ
  status : PlanStatus
  preconditionResults : List CheckResult
  operationResults : List OperationResult
  verificationResults : List CheckResult
  rollbackResults : List OperationResult
  reasonCode : String
  completedAt : Option Timestamp
  nodeSignature : Option Signature
deriving DecidableEq

/-- The enforcer writes every message of a result but the evidence in it. -/
def PlanExecutionResult.unknownFields (result : PlanExecutionResult) : Bool :=
  (result.preconditionResults ++ result.verificationResults).any fun check => check.evidence.any (·.unknownFields)

/-- The node's Ed25519 key. -/
structure NodeKey where
  sign : List UInt8 → List UInt8
  verify : List UInt8 → List UInt8 → Bool
  verify_sign : ∀ message, verify message (sign message) = true

/-- An enforcer, with what it uses of protobuf: the size of evidence, and the deterministic encoding of a
result, which not every message has. `validatePlan` gives the reason a plan is refused for. -/
structure Enforcer where
  nodeID : String
  key : NodeKey
  maximumEvidenceAge : ℤ
  validatePlan : Plan → Instant → Option String
  size : EvidenceReference → ℕ
  marshal : PlanExecutionResult → Option (List UInt8)

def planFingerprint (plan : Plan) : String :=
  match plan.signedContentDigest with
  | none => ""
  | some digest => hexEncode digest.digest

def Plan.reservation (plan : Plan) : Reservation := ⟨plan.id, planFingerprint plan, plan.policyRevision, plan.revision⟩

/-! ## Judging what the driver reports -/

/-- A text of at most this many bytes that is on one line, without white space around it. -/
def safeText (limit : ℕ) (value : String) : Bool :=
  value != "" && len value ≤ limit && trimSpace value == value && !containsAny value "\r\n\x00"

def safeReason (value fallback : String) : String :=
  if safeText 128 value && hasPrefix value "AF-" then value else fallback

def safeMessage (value fallback : String) : String := if safeText 512 value then value else fallback

def defaultCheckReason : CheckOutcome → String
  | .passed => "AF-CHECK-PASSED"
  | .failed => "AF-CHECK-FAILED"
  | .skipped => "AF-CHECK-SKIPPED"
  | _ => "AF-CHECK-UNKNOWN"

def defaultCheckMessage (outcome : CheckOutcome) : String :=
  if outcome = .passed then "The endpoint check passed with current supporting evidence."
  else "The endpoint check did not establish the required state."

namespace Enforcer
variable (enforcer : Enforcer)

def validEvidence (evidence : Option EvidenceReference) (now : Instant) : Bool :=
  evidence.any fun e =>
    enforcer.size e ≤ 64 * 1024 && !e.unknownFields && e.id != "" && e.role != .unspecified &&
    e.classification != .unspecified && e.sourceType != .unspecified && e.sourceName != "" && e.summary != "" &&
    e.observedAt.any checkValid && e.sensitivity != .unspecified && confidenceValid e.confidence &&
    (e.integrity.all fun digest => digest.algorithm == "sha256" && digest.digest.length == 32) &&
    (e.expiresAt.all fun expiresAt => checkValid expiresAt && now < asTime expiresAt) &&
    (e.classification != .verified || e.integrity.isSome && e.lastVerifiedAt.any fun verifiedAt =>
      checkValid verifiedAt && asTime verifiedAt ≤ now.add (5 * minute) && asTime e.observedAt ≤ asTime verifiedAt)

def hasCurrentSupportingEvidence (evidence : List EvidenceReference) (now : Instant) : Bool :=
  evidence.any fun item =>
    item.role == .supporting && (item.classification == .detected || item.classification == .verified) &&
    (item.observedAt.any fun observedAt =>
      -5 * minute ≤ now - asTime observedAt && now - asTime observedAt ≤ enforcer.maximumEvidenceAge) &&
    [EvidenceSourceType.localSensor, .authorizedGateway, .providerApi, .deterministicRule].contains item.sourceType

/-- `runCheck`, behind the call of the driver. -/
def judge (check : PlanCheck) (answer : CheckAnswer) : CheckResult :=
  let unknown (reason message : String) (evidence : List EvidenceReference) : CheckResult :=
    ⟨check.id, .unknown, reason, message, timestamp answer.checkedAt, evidence⟩
  match answer.observation with
  | none => unknown "AF-CHECK-UNAVAILABLE" "The endpoint check could not produce a trustworthy result." []
  | some observation =>
    let evidence := observation.evidence.reduceOption
    if !observation.evidence.all (enforcer.validEvidence · answer.checkedAt) then
      unknown "AF-CHECK-EVIDENCE-INVALID" "The endpoint check returned invalid evidence." []
    else if observation.outcome = .unspecified ∨ (observation.outcome = .passed ∧
        enforcer.hasCurrentSupportingEvidence evidence answer.checkedAt = false) then
      unknown "AF-CHECK-EVIDENCE-MISSING" "The endpoint check did not provide current supporting evidence." evidence
    else if check.required = true ∧ observation.outcome = .skipped then
      unknown "AF-CHECK-REQUIRED-SKIPPED" "A required endpoint check was skipped." evidence
    else
      ⟨check.id, observation.outcome, safeReason observation.reasonCode (defaultCheckReason observation.outcome),
        safeMessage observation.safeMessage (defaultCheckMessage observation.outcome), timestamp answer.checkedAt, evidence⟩

/-- The check does not stop the transaction. -/
def passes (step : PlanCheck × CheckAnswer) : Bool :=
  !step.1.required || (enforcer.judge step.1 step.2).outcome == .passed

end Enforcer

/-- `runOperation`, behind the call of the driver. -/
def operationResult (operation : PlanOperation) (answer : OperationAnswer) : OperationResult :=
  let result (succeeded : Bool) (reason message : String) : OperationResult :=
    ⟨operation.id, timestamp answer.startedAt, timestamp answer.completedAt, succeeded, reason, message⟩
  let failure := "The endpoint operation did not complete successfully."
  match answer.observation with
  | none => result false "AF-OPERATION-FAILED" failure
  | some observation =>
    if observation.succeeded then
      result true (safeReason observation.reasonCode "AF-OPERATION-SUCCEEDED")
        (safeMessage observation.safeMessage "The endpoint operation completed.")
    else
      result false (safeReason observation.reasonCode "AF-OPERATION-FAILED") (safeMessage observation.safeMessage failure)

def succeeds (step : PlanOperation × OperationAnswer) : Bool := (operationResult step.1 step.2).succeeded

/-! ## Signing a result -/

def resultSignatureDomain : String := "antiflock.plan-result.v1"

def resultSignatureInput (signature : Signature) : Option (List UInt8) :=
  match signature.signedAt, signature.signedContentDigest with
  | some signedAt, some digest =>
    if signature.algorithm ≠ .ed25519 ∨ signature.encoding ≠ .protobufDeterministicV1 ∨
        signature.domain ≠ resultSignatureDomain ∨ checkValid signedAt = false ∨ digest.algorithm ≠ "sha256" ∨
        digest.digest.length ≠ 32 then none
    else some (lengthPrefixed (signatureFields signature.domain digest.digest (asTime signedAt)))
  | _, _ => none

namespace Enforcer
variable (enforcer : Enforcer)

def signExecutionResult (result : PlanExecutionResult) (keyID : String) (signedAt : Instant) :
    Except String PlanExecutionResult :=
  if result.planId = "" ∨ result.nodeId = "" ∨ result.planRevision = 0 ∨ result.completedAt.any checkValid = false then
    .error "complete plan result identity and timestamp are required"
  else if keyID = "" ∨ signedAt.isZero then .error "plan result signing requires an Ed25519 node key"
  else
    match enforcer.marshal { result with nodeSignature := none } with
    | none => .error "encode signable plan result"
    | some encoded =>
      let signature : Signature := ⟨keyID, .ed25519, [], some (timestamp signedAt), .protobufDeterministicV1,
        some ⟨"sha256", Sha256.sum256 encoded⟩, resultSignatureDomain⟩
      match resultSignatureInput signature with
      | none => .error "unsupported plan result signature profile"
      | some input => .ok { result with nodeSignature := some { signature with value := enforcer.key.sign input } }

def verifyExecutionResult (result : PlanExecutionResult) : Option String :=
  match result.nodeSignature with
  | none => some "plan result and node Ed25519 key are required"
  | some signature =>
    if signature.keyId ≠ result.nodeId then some "plan result and node Ed25519 key are required"
    else if result.unknownFields then some "plan result contains unknown fields"
    else
      match enforcer.marshal { result with nodeSignature := none } with
      | none => some "encode plan result"
      | some encoded =>
        if signature.signedContentDigest.map (·.digest) ≠ some (Sha256.sum256 encoded) then
          some "plan result signed-content digest mismatch"
        else
          match resultSignatureInput signature with
          | none => some "plan result signature verification failed"
          | some input =>
            if enforcer.key.verify input signature.value then none
            else some "plan result signature verification failed"

end Enforcer

/-! ## The transaction -/

inductive EnforcerRequest where
  | clock
  | check (check : PlanCheck)
  | operate (operation : PlanOperation) (rollback : Bool)
  | reserve (reservation : Reservation)
  | complete (result : PlanExecutionResult)

def EnforcerAnswer : EnforcerRequest → Type
  | .clock => Instant
  | .check _ => CheckAnswer
  | .operate _ _ => OperationAnswer
  | .reserve _ => Except StateErr (Option PlanExecutionResult)
  | .complete _ => Except StateErr Unit

def enforcerSig : Sig := ⟨EnforcerRequest, EnforcerAnswer⟩

inductive ApplyErr where
  | unsigned (text : String)
  | rejected (reason : String)
  /-- The persisted plan result failed signature or reservation validation. -/
  | persistedInvalid
  | notPersisted (err : StateErr)
deriving DecidableEq

abbrev Outcome := Option PlanExecutionResult × Option ApplyErr

def reserveReason (err : StateErr) : String :=
  match err.kind with
  | .planReplay => "AF-PLAN-REPLAY"
  | .planInProgress => "AF-PLAN-IN-PROGRESS"
  | _ => "AF-PLAN-STATE-UNAVAILABLE"

def operate (rollback : Bool) (operation : PlanOperation) : Prog enforcerSig OperationAnswer :=
  .call (S := enforcerSig) (.operate operation rollback) .ret

def runCheck (check : PlanCheck) : Prog enforcerSig CheckAnswer := .call (S := enforcerSig) (.check check) .ret

namespace Enforcer
variable (enforcer : Enforcer)

def finish (result : PlanExecutionResult) (status : PlanStatus) (reason : String) (completedAt : Instant) :
    Except String PlanExecutionResult :=
  enforcer.signExecutionResult
    { result with status := status, reasonCode := reason, completedAt := some (timestamp completedAt) }
    enforcer.nodeID completedAt

def reject (result : PlanExecutionResult) (reason : String) (now : Instant) : Outcome :=
  match enforcer.finish result .rejected reason now with
  | .error text => (none, some (.unsigned text))
  | .ok terminal => (some terminal, some (.rejected reason))

def complete (result : PlanExecutionResult) (status : PlanStatus) (reason : String) : Prog enforcerSig Outcome :=
  .call (S := enforcerSig) .clock fun (now : Instant) =>
    match enforcer.finish result status reason now with
    | .error text => .ret (none, some (.unsigned text))
    | .ok terminal =>
      .call (S := enforcerSig) (.complete terminal) fun (answer : Except StateErr Unit) =>
        match answer with
        | .error err => .ret (some terminal, some (.notPersisted err))
        | .ok () => .ret (some terminal, none)

def rollback (plan : Plan) (result : PlanExecutionResult) (originalReason : String) : Prog enforcerSig Outcome :=
  (Prog.whileOk (operate true) (fun _ => true) plan.rollback).bind fun undo =>
    let result := { result with rollbackResults := undo.map fun step => operationResult step.1 step.2 }
    if undo.all succeeds then enforcer.complete result .rolledBack originalReason
    else enforcer.complete result .failed "AF-PLAN-ROLLBACK-INCOMPLETE"

/-- `Apply`, once the plan is reserved. -/
def execute (plan : Plan) (result : PlanExecutionResult) : Prog enforcerSig Outcome :=
  (Prog.whileOk runCheck enforcer.passes plan.preconditions).bind fun pre =>
    let result := { result with preconditionResults := pre.map fun step => enforcer.judge step.1 step.2 }
    if !pre.all enforcer.passes then enforcer.complete result .rejected "AF-PLAN-PRECONDITION-FAILED"
    else (Prog.whileOk (operate false) succeeds plan.actions).bind fun act =>
      let result := { result with operationResults := act.map fun step => operationResult step.1 step.2 }
      if !act.all succeeds then enforcer.rollback plan result "AF-PLAN-ACTION-FAILED"
      else (Prog.whileOk runCheck enforcer.passes plan.verifications).bind fun ver =>
        let result := { result with verificationResults := ver.map fun step => enforcer.judge step.1 step.2 }
        if !ver.all enforcer.passes then enforcer.rollback plan result "AF-PLAN-VERIFICATION-FAILED"
        else enforcer.complete result .committed "AF-PLAN-COMMITTED"

def started (plan : Plan) : PlanExecutionResult :=
  ⟨plan.id, enforcer.nodeID, plan.revision, .unspecified, [], [], [], [], "", none, none⟩

def apply (plan : Plan) : Prog enforcerSig Outcome :=
  .call (S := enforcerSig) .clock fun (now : Instant) =>
    match enforcer.validatePlan plan now with
    | some reason => .ret (enforcer.reject (enforcer.started plan) reason now)
    | none =>
      .call (S := enforcerSig) (.reserve plan.reservation) fun (answer : Except StateErr (Option PlanExecutionResult)) =>
        match answer with
        | .error err => .ret (enforcer.reject (enforcer.started plan) (reserveReason err) now)
        | .ok (some existing) =>
          if existing.planId ≠ plan.id ∨ existing.planRevision ≠ plan.revision ∨ existing.nodeId ≠ enforcer.nodeID ∨
              (enforcer.verifyExecutionResult existing).isSome then
            .ret (none, some .persistedInvalid)
          else .ret (some existing, none)
        | .ok none => enforcer.execute plan (enforcer.started plan)

end Enforcer

/-! ## What a transaction asks of the driver -/

def EnforcerRequest.driver : EnforcerRequest → Bool
  | .check _ | .operate _ _ => true
  | .clock | .reserve _ | .complete _ => false

def checked (step : PlanCheck × CheckAnswer) : (q : enforcerSig.Req) × enforcerSig.Ans q :=
  ⟨EnforcerRequest.check step.1, step.2⟩

def operated (rollback : Bool) (step : PlanOperation × OperationAnswer) : (q : enforcerSig.Req) × enforcerSig.Ans q :=
  ⟨EnforcerRequest.operate step.1 rollback, step.2⟩

/-- The driver reported that the check has passed, with evidence that is valid and some that supports it now. -/
def Established (enforcer : Enforcer) (answer : CheckAnswer) : Prop :=
  ∃ observation, answer.observation = some observation ∧ observation.outcome = .passed ∧
    (∀ evidence ∈ observation.evidence, enforcer.validEvidence evidence answer.checkedAt = true) ∧
    enforcer.hasCurrentSupportingEvidence observation.evidence.reduceOption answer.checkedAt = true

abbrev CheckSteps := List (PlanCheck × CheckAnswer)

abbrev OperationSteps := List (PlanOperation × OperationAnswer)

/-- The steps of a transaction, and how it ends. -/
structure Transaction (enforcer : Enforcer) (plan : Plan) (pre ver : CheckSteps)
    (act undo : OperationSteps) (status : PlanStatus) : Prop where
  prepared : Attempts enforcer.passes plan.preconditions pre
  acted : if pre.all enforcer.passes then Attempts succeeds plan.actions act else act = []
  verified : if pre.all enforcer.passes ∧ act.all succeeds then Attempts enforcer.passes plan.verifications ver else ver = []
  undone : if pre.all enforcer.passes ∧ ¬ (act.all succeeds ∧ ver.all enforcer.passes) then
    undo.map Prod.fst = plan.rollback else undo = []
  status : status = if ¬ pre.all enforcer.passes then .rejected else if act.all succeeds ∧ ver.all enforcer.passes then
    .committed else if undo.all succeeds then .rolledBack else .failed
  established : ∀ step ∈ pre ++ ver, step.1.required = true → enforcer.passes step = true → Established enforcer step.2

/-- A result says what was done. -/
structure Reports (enforcer : Enforcer) (plan : Plan) (pre ver : CheckSteps)
    (act undo : OperationSteps) (status : PlanStatus) (result : PlanExecutionResult) : Prop where
  plan : result.planId = plan.id ∧ result.planRevision = plan.revision ∧ result.nodeId = enforcer.nodeID
  status : result.status = status
  pre : result.preconditionResults = pre.map fun step => enforcer.judge step.1 step.2
  act : result.operationResults = act.map fun step => operationResult step.1 step.2
  ver : result.verificationResults = ver.map fun step => enforcer.judge step.1 step.2
  undo : result.rollbackResults = undo.map fun step => operationResult step.1 step.2

section Traces
variable {enforcer : Enforcer} {plan : Plan} {t : Trace enforcerSig} {outcome : Outcome}
  {pre ver : CheckSteps} {act undo : OperationSteps}

theorem runCheck_trace (check : PlanCheck) (t : Trace enforcerSig) (answer : CheckAnswer)
    (h : Returns (runCheck check) t answer) : t = [checked (check, answer)] := by
  obtain ⟨r, t', rfl, hret⟩ := h.of_call
  obtain ⟨rfl, rfl⟩ := hret.of_ret
  rfl

theorem operate_trace (rollback : Bool) (operation : PlanOperation) (t : Trace enforcerSig) (answer : OperationAnswer)
    (h : Returns (operate rollback operation) t answer) : t = [operated rollback (operation, answer)] := by
  obtain ⟨r, t', rfl, hret⟩ := h.of_call
  obtain ⟨rfl, rfl⟩ := hret.of_ret
  rfl

theorem established_of_judge {check : PlanCheck} {answer : CheckAnswer}
    (h : (enforcer.judge check answer).outcome = .passed) : Established enforcer answer := by
  unfold Enforcer.judge at h
  cases hobservation : answer.observation with
  | none =>
    rw [hobservation] at h
    cases h
  | some observation =>
    simp only [hobservation] at h
    split_ifs at h with hinvalid hmissing hskipped
    have hpassed : observation.outcome = .passed := h
    refine ⟨observation, hobservation, hpassed, by simpa using hinvalid, ?_⟩
    by_contra hnone
    exact hmissing (.inr ⟨hpassed, by simpa using hnone⟩)

/-- How `finish` changes a result. -/
theorem finish_ok {result terminal : PlanExecutionResult} {status : PlanStatus} {reason : String} {now : Instant}
    (h : enforcer.finish result status reason now = .ok terminal) : ∃ completedAt signature,
      terminal = { result with
        status := status, reasonCode := reason, completedAt := completedAt, nodeSignature := signature } := by
  unfold Enforcer.finish Enforcer.signExecutionResult at h
  split_ifs at h
  cases hencoded : enforcer.marshal { result with
      status := status, reasonCode := reason, completedAt := some (timestamp now), nodeSignature := none } with
  | none =>
    simp only [hencoded] at h
    cases h
  | some encoded =>
    simp only [hencoded] at h
    split at h
    · cases h
    · cases h
      exact ⟨_, _, rfl⟩

/-- The end of a transaction: the result is signed, and if it is, the store is told. -/
theorem complete_trace {result : PlanExecutionResult} {status : PlanStatus} {reason : String}
    (h : Returns (enforcer.complete result status reason) t outcome) : (∀ entry ∈ t, entry.1.driver = false) ∧
      ∀ terminal, outcome.1 = some terminal → ∃ now, enforcer.finish result status reason now = .ok terminal := by
  obtain ⟨now, t', rfl, hsign⟩ := h.of_call
  cases hfinish : enforcer.finish result status reason now with
  | error text =>
    simp only [hfinish] at hsign
    obtain ⟨rfl, rfl⟩ := hsign.of_ret
    exact ⟨by simp [EnforcerRequest.driver], by simp⟩
  | ok terminal =>
    simp only [hfinish] at hsign
    obtain ⟨answer, t'', rfl, htold⟩ := hsign.of_call
    have hout : t'' = [] ∧ outcome.1 = some terminal := by
      cases answer with
      | error err =>
        obtain ⟨rfl, rfl⟩ := htold.of_ret
        exact ⟨rfl, rfl⟩
      | ok u =>
        obtain ⟨rfl, rfl⟩ := htold.of_ret
        exact ⟨rfl, rfl⟩
    obtain ⟨rfl, hterminal⟩ := hout
    refine ⟨by simp [EnforcerRequest.driver], fun other hother => ⟨now, ?_⟩⟩
    rw [hfinish, Option.some.inj (hterminal.symm.trans hother)]

/-- The result of some steps, before it is finished. -/
def Enforcer.recorded (enforcer : Enforcer) (plan : Plan) (pre ver : CheckSteps)
    (act undo : OperationSteps) : PlanExecutionResult := { enforcer.started plan with
  preconditionResults := pre.map fun step => enforcer.judge step.1 step.2
  operationResults := act.map fun step => operationResult step.1 step.2
  verificationResults := ver.map fun step => enforcer.judge step.1 step.2
  rollbackResults := undo.map fun step => operationResult step.1 step.2 }

theorem rollback_trace {result : PlanExecutionResult} {reason : String}
    (h : Returns (enforcer.rollback plan result reason) t outcome) : ∃ (undo : OperationSteps) (closing : Trace enforcerSig) (reason' : String),
      t = undo.map (operated true) ++ closing ∧ undo.map Prod.fst = plan.rollback ∧
      Returns (enforcer.complete { result with rollbackResults := undo.map fun step => operationResult step.1 step.2 }
        (if undo.all succeeds then .rolledBack else .failed) reason') closing outcome := by
  obtain ⟨undo, t₁, closing, rfl, hloop, hclose⟩ := h.of_bind
  obtain ⟨rfl, hundo⟩ := hloop.of_whileOk (operate_trace true)
  have hall := hundo.complete (by simp)
  by_cases hsucceeds : undo.all succeeds = true
  · rw [if_pos hsucceeds] at hclose
    exact ⟨undo, closing, _, rfl, hall, by rwa [if_pos hsucceeds]⟩
  · rw [if_neg hsucceeds] at hclose
    exact ⟨undo, closing, _, rfl, hall, by rwa [if_neg hsucceeds]⟩

theorem execute_trace (h : Returns (enforcer.execute plan (enforcer.started plan)) t outcome) :
    ∃ (pre ver : CheckSteps) (act undo : OperationSteps) (status : PlanStatus) (reason : String) (closing : Trace enforcerSig),
      t = pre.map checked ++ (act.map (operated false) ++ (ver.map checked ++ (undo.map (operated true) ++ closing))) ∧
      Transaction enforcer plan pre ver act undo status ∧
      Returns (enforcer.complete (enforcer.recorded plan pre ver act undo) status reason) closing outcome := by
  have hestablished (steps : CheckSteps) : ∀ step ∈ steps, step.1.required = true →
      enforcer.passes step = true → Established enforcer step.2 := by
    intro step _ hrequired hpasses
    apply established_of_judge
    simpa [Enforcer.passes, hrequired] using hpasses
  obtain ⟨pre, t₁, t₂, rfl, hloop, hrest⟩ := h.of_bind
  obtain ⟨rfl, hpre⟩ := hloop.of_whileOk runCheck_trace
  cases hprepared : pre.all enforcer.passes with
  | false =>
    simp only [hprepared, Bool.not_false, if_true] at hrest
    refine ⟨pre, [], [], [], .rejected, _, t₂, rfl, ⟨hpre, ?_, ?_, ?_, ?_, hestablished _⟩, hrest⟩ <;> simp [hprepared]
  | true =>
    simp only [hprepared, Bool.not_true, Bool.false_eq_true, if_false] at hrest
    obtain ⟨act, t₃, t₄, rfl, hacting, hbehind⟩ := hrest.of_bind
    obtain ⟨rfl, hact⟩ := hacting.of_whileOk (operate_trace false)
    cases hacted : act.all succeeds with
    | false =>
      simp only [hacted, Bool.not_false, if_true] at hbehind
      obtain ⟨undo, closing, reason, rfl, hundo, hclose⟩ := rollback_trace hbehind
      refine ⟨pre, [], act, undo, _, reason, closing, rfl, ⟨hpre, ?_, ?_, ?_, ?_, hestablished _⟩, hclose⟩ <;>
        simp [hprepared, hacted, hact, hundo]
    | true =>
      simp only [hacted, Bool.not_true, Bool.false_eq_true, if_false] at hbehind
      obtain ⟨ver, t₅, t₆, rfl, hverifying, hlast⟩ := hbehind.of_bind
      obtain ⟨rfl, hver⟩ := hverifying.of_whileOk runCheck_trace
      cases hverified : ver.all enforcer.passes with
      | false =>
        simp only [hverified, Bool.not_false, if_true] at hlast
        obtain ⟨undo, closing, reason, rfl, hundo, hclose⟩ := rollback_trace hlast
        refine ⟨pre, ver, act, undo, _, reason, closing, rfl, ⟨hpre, ?_, ?_, ?_, ?_, hestablished _⟩, hclose⟩ <;>
          simp [hprepared, hacted, hverified, hact, hver, hundo]
      | true =>
        simp only [hverified, Bool.not_true, Bool.false_eq_true, if_false] at hlast
        refine ⟨pre, ver, act, [], .committed, _, t₆, rfl, ⟨hpre, ?_, ?_, ?_, ?_, hestablished _⟩, hlast⟩ <;>
          simp [hprepared, hacted, hverified, hact, hver]

theorem apply_trace (h : Returns (enforcer.apply plan) t outcome) : (∀ entry ∈ t, entry.1.driver = false) ∨
    ∃ now t', t = ⟨.clock, now⟩ :: ⟨.reserve plan.reservation, .ok none⟩ :: t' ∧ enforcer.validatePlan plan now = none ∧
      Returns (enforcer.execute plan (enforcer.started plan)) t' outcome := by
  obtain ⟨now, t', rfl, hvalidated⟩ := h.of_call
  cases hvalid : enforcer.validatePlan plan now with
  | some reason =>
    simp only [hvalid] at hvalidated
    obtain ⟨rfl, -⟩ := hvalidated.of_ret
    exact .inl (by simp [EnforcerRequest.driver])
  | none =>
    simp only [hvalid] at hvalidated
    obtain ⟨answer, t'', rfl, hreserved⟩ := hvalidated.of_call
    cases answer with
    | error err =>
      obtain ⟨rfl, -⟩ := hreserved.of_ret
      exact .inl (by simp [EnforcerRequest.driver])
    | ok stored =>
      cases stored with
      | none => exact .inr ⟨now, t'', rfl, hvalid, hreserved⟩
      | some existing =>
        dsimp only at hreserved
        rw [← apply_ite Prog.ret] at hreserved
        obtain ⟨rfl, -⟩ := hreserved.of_ret
        exact .inl (by simp [EnforcerRequest.driver])

theorem Reports.of_finish {result : PlanExecutionResult} {status : PlanStatus} {reason : String} {now : Instant}
    (h : enforcer.finish (enforcer.recorded plan pre ver act undo) status reason now = .ok result) :
    Reports enforcer plan pre ver act undo status result := by
  obtain ⟨completedAt, signature, rfl⟩ := finish_ok h
  exact ⟨⟨rfl, rfl, rfl⟩, rfl, rfl, rfl, rfl, rfl⟩

/-- Whatever the driver, the store and the clock answer, the driver is left alone or it is asked for one
transaction of a plan that was accepted and reserved, and the result says what was done. -/
theorem apply_transaction (h : Returns (enforcer.apply plan) t outcome) :
    (∀ entry ∈ t, entry.1.driver = false) ∨
    ∃ (now : Instant) (pre ver : CheckSteps) (act undo : OperationSteps) (status : PlanStatus) (closing : Trace enforcerSig),
      t = ⟨.clock, now⟩ :: ⟨.reserve plan.reservation, .ok none⟩ :: (pre.map checked ++ (act.map (operated false) ++
        (ver.map checked ++ (undo.map (operated true) ++ closing)))) ∧
      (∀ entry ∈ closing, entry.1.driver = false) ∧ enforcer.validatePlan plan now = none ∧
      Transaction enforcer plan pre ver act undo status ∧
      ∀ result, outcome.1 = some result → Reports enforcer plan pre ver act undo status result := by
  rcases apply_trace h with hidle | ⟨now, t', rfl, hvalid, hexecute⟩
  · exact .inl hidle
  · obtain ⟨pre, ver, act, undo, status, reason, closing, rfl, htransaction, hcomplete⟩ := execute_trace hexecute
    obtain ⟨hidle, hfinish⟩ := complete_trace hcomplete
    refine .inr ⟨now, pre, ver, act, undo, status, closing, rfl, hidle, hvalid, htransaction, ?_⟩
    intro result hresult
    obtain ⟨completedAt, hresult⟩ := hfinish result hresult
    exact .of_finish hresult

end Traces

/-! ## A driver that fails at everything -/

def unencodable : Enforcer where
  nodeID := "node"
  key := ⟨id, fun _ _ => true, fun _ => rfl⟩
  maximumEvidenceAge := 2 * minute
  validatePlan _ _ := none
  size _ := 0
  marshal _ := none

def failing : (q : EnforcerRequest) → EnforcerAnswer q
  | .clock => (0 : ℤ)
  | .check _ => ⟨none, 0⟩
  | .operate _ _ => ⟨0, none, 0⟩
  | .reserve _ => .ok none
  | .complete _ => .ok ()

def onePlan : Plan := ⟨"plan-1", 7, 3, none, [⟨"before", false⟩], [⟨"act"⟩], [], [⟨"undo"⟩]⟩

theorem apply_transaction_undone : ∃ t outcome pre ver act undo status,
    Returns (unencodable.apply onePlan) t outcome ∧ operated true (⟨"undo"⟩, ⟨0, none, 0⟩) ∈ t ∧
    Transaction unencodable onePlan pre ver act undo status := by
  have hreturns := returns_follow (S := enforcerSig) failing (unencodable.apply onePlan)
  have htrace : ((unencodable.apply onePlan).follow failing).1 = [⟨EnforcerRequest.clock, (0 : ℤ)⟩,
      ⟨EnforcerRequest.reserve onePlan.reservation, .ok none⟩, checked (⟨"before", false⟩, ⟨none, 0⟩),
      operated false (⟨"act"⟩, ⟨0, none, 0⟩), operated true (⟨"undo"⟩, ⟨0, none, 0⟩), ⟨EnforcerRequest.clock, (0 : ℤ)⟩] := rfl
  have hundo : operated true (⟨"undo"⟩, ⟨0, none, 0⟩) ∈ ((unencodable.apply onePlan).follow failing).1 := by
    simp [htrace]
  rcases apply_transaction hreturns with hidle | ⟨-, pre, ver, act, undo, status, -, -, -, -, h, -⟩
  · cases hidle _ hundo
  · exact ⟨_, _, pre, ver, act, undo, status, hreturns, hundo, h⟩

end AntiFlock.Enforcement
