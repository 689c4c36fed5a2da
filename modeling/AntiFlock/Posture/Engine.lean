import AntiFlock.Go.Calendar
import AntiFlock.Go.Sha256
import AntiFlock.Proto.Common
import Mathlib.Data.List.Sort

set_option autoImplicit false

/-!
# The posture engine

`Evaluate` judges what a node reports of its controls and stamps the verdict with
the time it holds until. A node is protected only if its telemetry and every
control the network calls for were seen in time, the controls known and active.
-/
namespace AntiFlock.Posture
open AntiFlock.Go
open AntiFlock.Events (Timestamp timestamp)
open AntiFlock.Proto (minute)

/-! ## Snapshots -/

inductive ProtectionState where
  | unspecified
  | «protected»
  | degraded
  | suspicious
  | exposed
  | unknown
  | unavailable
  /-- A number that is none of the states. -/
  | unlisted (number : ℤ)
deriving DecidableEq

def ProtectionState.number : ProtectionState → ℤ
  | unspecified => 0
  | «protected» => 1
  | degraded => 2
  | suspicious => 3
  | exposed => 4
  | unknown => 5
  | unavailable => 6
  | unlisted number => number

inductive EnforcementState where
  | unspecified
  | observing
  | connecting
  | verifying
  | allowing
  | holding
  | blocking
  | recovering
  | unavailable
  | unlisted (number : ℤ)
deriving DecidableEq

inductive EvidenceClass where
  | unspecified
  | detected
  | verified
  | reported
  | inferred
  | suspected
  | unknown
  | unlisted (number : ℤ)
deriving DecidableEq

inductive EvidenceProvenance where
  | unspecified
  | live
  | simulation
  | unknown
  | unlisted (number : ℤ)
deriving DecidableEq

structure EvidenceClaim where
  id : String
  reasonCode : String
  statement : String
  classification : EvidenceClass
  confidence : UInt32
  explanation : String
  recommendedResponse : String
deriving DecidableEq

structure PostureReason where
  ruleID : String
  reasonCode : String
  contributedState : ProtectionState
  currentFact : String
  expectedFact : String
  claim : EvidenceClaim
deriving DecidableEq

structure ProtectionSnapshot where
  id : String
  deploymentID : String
  nodeID : String
  policyID : String
  policyRevision : ℕ
  state : ProtectionState
  enforcementState : EnforcementState
  evaluatedAt : Option Timestamp
  validUntil : Option Timestamp
  reasons : List PostureReason
  confidence : UInt32
  recommendedResponse : String
  evidenceProvenance : EvidenceProvenance
deriving DecidableEq

/-! ## The engine -/

structure Fact where
  known : Bool
  value : Bool
  classification : EvidenceClass
  confidence : UInt32
  observedAt : Instant
deriving DecidableEq

structure Input where
  deploymentID : String
  nodeID : String
  policyID : String
  policyRevision : ℕ
  evaluatedAt : Instant
  telemetryAt : Instant
  networkTrust : String
  requireMeshOnUntrusted : Bool
  meshConnected : Fact
  approvedExitActive : Fact
  dnsProtected : Fact
  routeProtected : Fact

/-- An engine, with the freshness `New` lets through. -/
structure Engine where
  staleAfter : ℤ
  positive : 0 < staleAfter
  bounded : staleAfter ≤ 30 * minute

/-- `Sub`, which stops at the largest durations there are. -/
def sub (t u : Instant) : ℤ := max (-9223372036854775808) (min (t - u) 9223372036854775807)

theorem le_of_sub_le {t u d : ℤ} (hd : d < 9223372036854775807) (h : sub t u ≤ d) : t - d ≤ u := by
  have hmin := (max_le_iff.mp h).2
  rcases min_le_iff.mp hmin with hle | hle
  · omega
  · omega

def one : UInt32 := 0x3f800000

/-- `<` of two floats between 0 and 1. Minus zero is zero. -/
def confidenceLess (left right : UInt32) : Bool :=
  (if left = 0x80000000 then 0 else left) < (if right = 0x80000000 then 0 else right)

def minConfidence (left right : UInt32) : UInt32 := if confidenceLess right left then right else left

def validFact (fact : Fact) (now : Instant) (staleAfter : ℤ) : Bool :=
  if fact.classification = .unspecified || !Storage.confidenceValid fact.confidence || fact.observedAt.isZero then false
  else -5 * minute ≤ sub now fact.observedAt && sub now fact.observedAt ≤ staleAfter

def recommendation (state : ProtectionState) : String :=
  if state = .protected then "Continue monitoring the verified path."
  else "Hold protected egress until the required path controls are restored and verified."

def enforcementFor (state : ProtectionState) : EnforcementState := if state = .protected then .allowing else .holding

def reason (code : String) (state : ProtectionState) (current expected : String) (cls : EvidenceClass)
    (confidence : UInt32) : PostureReason :=
  ⟨"antiflock.guard.v1", code, state, current, expected,
    ⟨"claim_" ++ code, code, current, cls, confidence, current, recommendation state⟩⟩

structure Check where
  required : Bool
  fact : Fact
  code : String
  current : String
  expected : String

def Input.checks (input : Input) : List Check :=
  [⟨input.networkTrust == "UNTRUSTED" && input.requireMeshOnUntrusted, input.meshConnected, "AF-MESH-DISCONNECTED",
      "The approved private mesh is not connected.",
      "The approved private mesh must be connected on an untrusted network."⟩,
    ⟨input.networkTrust == "UNTRUSTED", input.approvedExitActive, "AF-EGRESS-EXIT-UNVERIFIED",
      "The approved exit path is not active and verified.",
      "Traffic must use an approved verified exit on an untrusted network."⟩,
    ⟨input.networkTrust == "UNTRUSTED", input.dnsProtected, "AF-DNS-UNPROTECTED",
      "DNS protection is not active and verified.", "DNS must use the protected path on an untrusted network."⟩,
    ⟨input.networkTrust == "UNTRUSTED", input.routeProtected, "AF-ROUTE-UNPROTECTED",
      "The protected route is not active and verified.", "The protected route must be active on an untrusted network."⟩]

structure Verdict where
  state : ProtectionState
  reasons : List PostureReason
  confidence : UInt32
  requiredFacts : ℕ
  allRequiredFactsVerified : Bool

/-- A protected verdict becomes unknown; any other stays. -/
def Verdict.doubt (v : Verdict) : Verdict := { v with state := if v.state = .protected then .unknown else v.state }

theorem doubt_ne_protected (v : Verdict) : v.doubt.state ≠ .protected := by
  unfold Verdict.doubt
  dsimp only
  split
  next => exact ProtectionState.noConfusion
  next hne => exact hne

def Engine.telemetry (engine : Engine) (input : Input) : Verdict :=
  let age := sub input.evaluatedAt input.telemetryAt
  if input.telemetryAt.isZero then
    ⟨.unknown, [reason "AF-TELEMETRY-UNAVAILABLE" .unknown "No current endpoint telemetry is available."
      "Fresh signed endpoint telemetry is required." .unknown 0], one, 0, true⟩
  else if age < -5 * minute ∨ engine.staleAfter < age then
    ⟨.unknown, [reason "AF-TELEMETRY-STALE" .unknown "The latest endpoint telemetry is outside the freshness window."
      "Fresh signed endpoint telemetry is required." .detected one], one, 0, true⟩
  else ⟨.protected, [], one, 0, true⟩

def Verdict.networkTrust (v : Verdict) (trust : String) : Verdict :=
  if trust ≠ "TRUSTED" ∧ trust ≠ "UNTRUSTED" then
    { v.doubt with
      reasons := v.reasons ++ [reason "AF-NETWORK-TRUST-UNKNOWN" .unknown
        "The current network trust classification is unknown."
        "The network must be classified before protection can be verified." .unknown 0]
      confidence := 0 }
  else v

def Engine.judge (engine : Engine) (now : Instant) (v : Verdict) (check : Check) : Except String Verdict :=
  if !check.required then .ok v
  else if !check.fact.known then
    .ok { v.doubt with
      reasons := v.reasons ++ [reason check.code .unknown "The control state is unknown." check.expected .unknown 0]
      confidence := 0
      requiredFacts := v.requiredFacts + 1 }
  else if !validFact check.fact now engine.staleAfter then .error ("posture fact " ++ check.code ++ " is invalid")
  else
    let v := { v with
      requiredFacts := v.requiredFacts + 1
      allRequiredFactsVerified := v.allRequiredFactsVerified && check.fact.classification == .verified
      confidence := minConfidence v.confidence check.fact.confidence }
    if !check.fact.value then
      .ok { v with
        state := .exposed
        reasons := v.reasons ++ [reason check.code .exposed check.current check.expected check.fact.classification
          check.fact.confidence] }
    else .ok v

def snapshotID (input : Input) (state : ProtectionState) (reasons : List PostureReason) : String :=
  "posture_" ++ hexEncode ((Sha256.sum256 (bytes
    (input.deploymentID ++ "\x00" ++ input.nodeID ++ "\x00" ++ input.policyID ++ "\x00" ++ toString input.policyRevision ++
      "\x00" ++ toString state.number ++ "\x00" ++ Calendar.formatTime input.evaluatedAt ++
      String.join (reasons.map fun r => "\x00" ++ r.reasonCode)))).take 16)

def Engine.evaluate (engine : Engine) (input : Input) : Except String ProtectionSnapshot :=
  if input.deploymentID = "" ∨ input.nodeID = "" ∨ input.policyID = "" ∨ input.policyRevision = 0 then
    .error "posture deployment, node, policy, and revision are required"
  else if input.evaluatedAt.isZero then .error "posture evaluation time is required"
  else do
    let v ← input.checks.foldlM (engine.judge input.evaluatedAt)
      ((engine.telemetry input).networkTrust input.networkTrust)
    let reasons := if v.state = .protected then
        v.reasons ++ [reason "AF-PROTECTION-VERIFIED" v.state
          "Mesh, approved exit, DNS, and route checks meet the active policy."
          "All required path controls must remain verified."
          (if 0 < v.requiredFacts ∧ v.allRequiredFactsVerified = true then .verified else .detected) v.confidence]
      else v.reasons
    -- no two reasons have the same code
    let reasons := reasons.insertionSort fun left right => ¬ right.reasonCode < left.reasonCode
    return {
      id := snapshotID input v.state reasons
      deploymentID := input.deploymentID
      nodeID := input.nodeID
      policyID := input.policyID
      policyRevision := input.policyRevision
      state := v.state
      enforcementState := enforcementFor v.state
      evaluatedAt := some (timestamp input.evaluatedAt)
      validUntil := some (timestamp (input.evaluatedAt.add engine.staleAfter))
      reasons := reasons
      confidence := v.confidence
      recommendedResponse := recommendation v.state
      evidenceProvenance := .unspecified }

/-! ## What a protected verdict rests on -/

def Check.Active (engine : Engine) (now : Instant) (check : Check) : Prop :=
  check.fact.known = true ∧ validFact check.fact now engine.staleAfter = true ∧ check.fact.value = true

theorem judge_protected {engine : Engine} {now : Instant} {v v' : Verdict} {check : Check}
    (h : engine.judge now v check = .ok v') (hstate : v'.state = .protected) :
    v.state = .protected ∧ (check.required = true → check.Active engine now) := by
  unfold Engine.judge at h
  split at h
  next hrequired =>
    cases h
    refine ⟨hstate, fun hrequired' => ?_⟩
    rw [hrequired'] at hrequired
    cases hrequired
  next =>
    split at h
    next =>
      cases h
      exact absurd hstate (doubt_ne_protected v)
    next hknown =>
      split at h
      next => cases h
      next hvalid =>
        dsimp only at h
        split at h
        next =>
          cases h
          cases hstate
        next hvalue =>
          cases h
          simp only [Bool.not_eq_true', Bool.not_eq_false] at hknown hvalid hvalue
          exact ⟨hstate, fun _ => ⟨hknown, hvalid, hvalue⟩⟩

theorem judges_protected {engine : Engine} {now : Instant} {checks : List Check} {v v' : Verdict}
    (h : checks.foldlM (engine.judge now) v = .ok v') (hstate : v'.state = .protected) :
    v.state = .protected ∧ ∀ check ∈ checks, check.required = true → check.Active engine now := by
  induction checks generalizing v with
  | nil =>
    cases h
    exact ⟨hstate, by simp⟩
  | cons check checks ih =>
    rw [List.foldlM_cons] at h
    cases hjudge : engine.judge now v check with
    | error err =>
      rw [hjudge] at h
      cases h
    | ok between =>
      rw [hjudge] at h
      obtain ⟨hbetween, hlater⟩ := ih h
      obtain ⟨hbefore, hcheck⟩ := judge_protected hjudge hbetween
      exact ⟨hbefore, List.forall_mem_cons.mpr ⟨hcheck, hlater⟩⟩

def Engine.Current (engine : Engine) (input : Input) : Prop :=
  input.telemetryAt.isZero = false ∧ sub input.evaluatedAt input.telemetryAt ≤ engine.staleAfter

theorem telemetry_protected {engine : Engine} {input : Input} (h : (engine.telemetry input).state = .protected) :
    engine.Current input := by
  dsimp only [Engine.telemetry] at h
  split at h
  next => cases h
  next hzero =>
    split at h
    next => cases h
    next hage => exact ⟨Bool.not_eq_true _ ▸ hzero, not_lt.mp fun hlate => hage (.inr hlate)⟩

theorem networkTrust_protected {v : Verdict} {trust : String} (h : (v.networkTrust trust).state = .protected) :
    v.state = .protected := by
  unfold Verdict.networkTrust at h
  split at h
  next => exact absurd h (doubt_ne_protected v)
  next => exact h

theorem Engine.Current.seen {engine : Engine} {input : Input} (h : engine.Current input) :
    input.evaluatedAt - engine.staleAfter ≤ input.telemetryAt :=
  le_of_sub_le (engine.bounded.trans_lt (by decide)) h.2

theorem Check.Active.seen {engine : Engine} {now : Instant} {check : Check} (h : check.Active engine now) :
    now - engine.staleAfter ≤ check.fact.observedAt := by
  obtain ⟨-, hvalid, -⟩ := h
  unfold validFact at hvalid
  split at hvalid
  next => cases hvalid
  next =>
    rw [Bool.and_eq_true, decide_eq_true_eq, decide_eq_true_eq] at hvalid
    exact le_of_sub_le (engine.bounded.trans_lt (by decide)) hvalid.2

structure Stamped (engine : Engine) (input : Input) (snapshot : ProtectionSnapshot) : Prop where
  nodeID : snapshot.nodeID = input.nodeID
  named : input.nodeID ≠ ""
  policyRevision : snapshot.policyRevision = input.policyRevision
  revised : input.policyRevision ≠ 0
  evaluatedAt : snapshot.evaluatedAt = some (timestamp input.evaluatedAt)
  validUntil : snapshot.validUntil = some (timestamp (input.evaluatedAt.add engine.staleAfter))

theorem evaluate_ok {engine : Engine} {input : Input} {snapshot : ProtectionSnapshot}
    (h : engine.evaluate input = .ok snapshot) : Stamped engine input snapshot ∧
      ∃ v, input.checks.foldlM (engine.judge input.evaluatedAt)
        ((engine.telemetry input).networkTrust input.networkTrust) = .ok v ∧ snapshot.state = v.state := by
  unfold Engine.evaluate at h
  split at h
  next => cases h
  next hnamed =>
    split at h
    next => cases h
    next =>
      cases hfold : input.checks.foldlM (engine.judge input.evaluatedAt)
        ((engine.telemetry input).networkTrust input.networkTrust) with
      | error err =>
        rw [hfold] at h
        cases h
      | ok v =>
        rw [hfold] at h
        cases h
        simp only [not_or] at hnamed
        exact ⟨⟨rfl, hnamed.2.1, rfl, hnamed.2.2.2, rfl, rfl⟩, v, rfl, rfl⟩

theorem evaluate_protected {engine : Engine} {input : Input} {snapshot : ProtectionSnapshot}
    (h : engine.evaluate input = .ok snapshot) (hstate : snapshot.state = .protected) : engine.Current input ∧
      ∀ check ∈ input.checks, check.required = true → check.Active engine input.evaluatedAt := by
  obtain ⟨-, v, hfold, hv⟩ := evaluate_ok h
  obtain ⟨htrust, hchecks⟩ := judges_protected hfold (hv.symm.trans hstate)
  exact ⟨telemetry_protected (networkTrust_protected htrust), hchecks⟩

end AntiFlock.Posture
