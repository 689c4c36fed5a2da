import AntiFlock.Go.Except
import Mathlib.Data.Finset.Basic
import Mathlib.Order.Basic

set_option autoImplicit false

/-!
# The guard of the Android client

`GuardEvaluator.evaluate` decides on egress from what was last observed of the network.
Where enforcement is required and something is missing, it looks for a one-time bypass in
the registry. Instants and durations count nanoseconds.
-/
namespace AntiFlock.Guard
open AntiFlock.Go

inductive Thrown where
  | illegalArgument (message : String)
  | illegalState (message : String)
  | dateTime
  deriving DecidableEq

def require (condition : Prop) [Decidable condition] (message : String) : Except Thrown Unit :=
  if condition then .ok () else .error (.illegalArgument message)

def failedRequirement : String := "Failed requirement."

theorem require_ok {condition : Prop} [Decidable condition] {message : String} {x : Unit} :
    require condition message = .ok x ↔ condition := by
  unfold require
  split <;> simp [*]

def second : ℤ := 1000000000

/-- `Instant.MIN` -/
def earliest : ℤ := -31557014167219200 * second

/-- `Instant.MAX` -/
def latest : ℤ := 31556889864403199 * second + 999999999

/-- `Instant.plus`, for durations that are not negative. -/
def plus (instant duration : ℤ) : Except Thrown ℤ :=
  if earliest ≤ instant + duration ∧ instant + duration ≤ latest then .ok (instant + duration) else .error .dateTime

theorem plus_ok {instant duration sum : ℤ} (h : plus instant duration = .ok sum) : sum = instant + duration := by
  unfold plus at h
  split at h
  · exact (Except.ok.inj h).symm
  · cases h

/-! ## What the guard is told -/

inductive EnrollmentStatus where
  | active | suspended | revoked
  deriving DecidableEq

structure EnrollmentIdentity where
  expiresAt : Option ℤ
  status : EnrollmentStatus

def EnrollmentIdentity.isUsable (identity : EnrollmentIdentity) (now : ℤ) : Bool :=
  decide (identity.status = .active) && identity.expiresAt.all fun expiresAt => now < expiresAt

structure GuardPolicy where
  requireMesh : Bool
  requireApprovedExit : Bool
  requireProtectedDns : Bool
  rejectRouteLeak : Bool
  verifyExternalExitIdentity : Bool
  protectAllNetworks : Bool
  allowOneTimeBypass : Bool
  maximumObservationAge : ℤ
  maximumBypassDuration : ℤ
  observationAge_pos : 0 < maximumObservationAge
  bypassDuration_pos : 0 < maximumBypassDuration

structure SignedPolicyEnvelope where
  revision : ℕ
  policy : GuardPolicy

inductive CachedPolicyStatus where
  | missing
  | active (envelope : SignedPolicyEnvelope)
  | expired (envelope : SignedPolicyEnvelope)

inductive NetworkTrust where
  | trusted | untrusted | unknown
  deriving DecidableEq

structure NetworkObservation where
  observedAt : ℤ
  trust : NetworkTrust
  meshConnected : Option Bool
  approvedExitActive : Option Bool
  dnsProtected : Option Bool
  routeLeakDetected : Option Bool
  externalExitIdentityVerified : Option Bool

structure ActionScope where
  applicationId : String
  actionId : String
  actionType : String
  destinations : Finset String
  deriving DecidableEq

structure GuardEvaluationInput where
  now : ℤ
  identity : Option EnrollmentIdentity
  policyStatus : CachedPolicyStatus
  network : NetworkObservation
  actionScope : Option ActionScope

/-! ## What the guard answers -/

inductive GuardRuntimeState where
  | disconnected | connecting | verifying | «protected» | degraded | blocked
  deriving DecidableEq

inductive EgressDecision where
  | allow | block | allowScopedOnce
  deriving DecidableEq

structure GuardVerdict where
  runtimeState : GuardRuntimeState
  egressDecision : EgressDecision
  reasonCodes : List String
  policyRevision : Option ℕ
  consumedBypassGrantId : Option String
  bypassAvailable : Bool

namespace ReasonCodes

def identityUnavailable := "AF-IDENTITY-001"
def policyMissing := "AF-POLICY-001"
def policyExpired := "AF-POLICY-002"
def telemetryStale := "AF-NODE-002"
def telemetryClockInvalid := "AF-NODE-003"
def networkTrustUnknown := "AF-NET-003"
def meshDisconnected := "AF-MESH-001"
def meshUnknown := "AF-MESH-002"
def exitUnavailable := "AF-PATH-001"
def exitUnknown := "AF-PATH-003"
def routeLeak := "AF-PATH-002"
def routeLeakUnknown := "AF-PATH-004"
def exitIdentityUnverified := "AF-PATH-005"
def exitIdentityUnknown := "AF-PATH-006"
def dnsUnprotected := "AF-DNS-001"
def dnsUnknown := "AF-DNS-002"
def scopedBypass := "AF-BYPASS-ONCE"

end ReasonCodes

/-! ## The registry of one-time bypasses -/

structure ScopedBypassGrant where
  grantId : String
  scope : ActionScope
  issuedAt : ℤ
  expiresAt : ℤ
  remainingUses : ℤ
  deriving DecidableEq

inductive BypassConsumption where
  | consumed (grantId : String)
  | notFound
  deriving DecidableEq

/-- The grants in the order of the map, which is that of their insertion. -/
structure ScopedBypassRegistry where
  grants : List ScopedBypassGrant
  issuedGrantIds : List String
  deriving DecidableEq

namespace ScopedBypassRegistry

def empty : ScopedBypassRegistry := ⟨[], []⟩

def consume (registry : ScopedBypassRegistry) (scope : ActionScope) (now : ℤ) :
    BypassConsumption × ScopedBypassRegistry :=
  match registry.grants.find? fun grant => grant.scope = scope ∧ now < grant.expiresAt ∧ grant.remainingUses = 1 with
  | none => (.notFound, registry)
  | some found =>
    (.consumed found.grantId,
      { registry with grants := registry.grants.filter fun grant => grant.grantId ≠ found.grantId })

end ScopedBypassRegistry

/-! ## The evaluator -/

def blocked (reasons : List String) (revision : Option ℕ) (bypassAvailable : Bool) : GuardVerdict :=
  ⟨.blocked, .block, reasons, revision, none, bypassAvailable⟩

def telemetry (policy : GuardPolicy) (network : NetworkObservation) (now : ℤ) : Except Thrown (List String) := do
  let freshUntil ← plus network.observedAt policy.maximumObservationAge
  let ahead ← plus now (5 * second)
  return (if freshUntil < now then [ReasonCodes.telemetryStale] else []) ++
    (if ahead < network.observedAt then [ReasonCodes.telemetryClockInvalid] else []) ++
    if network.trust = .unknown then [ReasonCodes.networkTrustUnknown] else []

def control (required : Bool) (observed : Option Bool) (wanted : Bool) (failed unknown : String) : List String :=
  if required then
    match observed with
    | none => [unknown]
    | some found => if found = wanted then [] else [failed]
  else []

def controls (policy : GuardPolicy) (network : NetworkObservation) : List String :=
  control policy.requireMesh network.meshConnected true ReasonCodes.meshDisconnected ReasonCodes.meshUnknown ++
  control policy.requireApprovedExit network.approvedExitActive true ReasonCodes.exitUnavailable ReasonCodes.exitUnknown ++
  control policy.requireProtectedDns network.dnsProtected true ReasonCodes.dnsUnprotected ReasonCodes.dnsUnknown ++
  control policy.rejectRouteLeak network.routeLeakDetected false ReasonCodes.routeLeak ReasonCodes.routeLeakUnknown ++
  control policy.verifyExternalExitIdentity network.externalExitIdentityVerified true
    ReasonCodes.exitIdentityUnverified ReasonCodes.exitIdentityUnknown

def bypass (registry : ScopedBypassRegistry) (policy : GuardPolicy) (input : GuardEvaluationInput) :
    BypassConsumption × ScopedBypassRegistry :=
  match input.actionScope with
  | none => (.notFound, registry)
  | some scope => if policy.allowOneTimeBypass then registry.consume scope input.now else (.notFound, registry)

def decideOn (registry : ScopedBypassRegistry) (envelope : SignedPolicyEnvelope) (input : GuardEvaluationInput)
    (distinctReasons : List String) : GuardVerdict × ScopedBypassRegistry :=
  let enforcementRequired := envelope.policy.protectAllNetworks = true ∨ input.network.trust ≠ .trusted
  if distinctReasons = [] then (⟨.protected, .allow, [], some envelope.revision, none, false⟩, registry)
  else if ¬ enforcementRequired then (⟨.degraded, .allow, distinctReasons, some envelope.revision, none, false⟩, registry)
  else match bypass registry envelope.policy input with
    | (.consumed grantId, registry) =>
      (⟨.blocked, .allowScopedOnce, distinctReasons ++ [ReasonCodes.scopedBypass], some envelope.revision,
        some grantId, true⟩, registry)
    | (.notFound, registry) =>
      (blocked distinctReasons (some envelope.revision) envelope.policy.allowOneTimeBypass, registry)

def evaluate (registry : ScopedBypassRegistry) (input : GuardEvaluationInput) :
    Except Thrown (GuardVerdict × ScopedBypassRegistry) :=
  if ¬ input.identity.any (·.isUsable input.now) then
    .ok (blocked [ReasonCodes.identityUnavailable] none false, registry)
  else match input.policyStatus with
    | .missing => .ok (blocked [ReasonCodes.policyMissing] none false, registry)
    | .expired envelope => .ok (blocked [ReasonCodes.policyExpired] (some envelope.revision) false, registry)
    | .active envelope => do
      let reasons ← telemetry envelope.policy input.network input.now
      return decideOn registry envelope input (reasons ++ controls envelope.policy input.network).eraseDups

/-! ## When the guard allows -/

def Usable (input : GuardEvaluationInput) : Prop := ∃ identity ∈ input.identity, identity.isUsable input.now = true

def InWindow (policy : GuardPolicy) (network : NetworkObservation) (now : ℤ) : Prop :=
  now - policy.maximumObservationAge ≤ network.observedAt ∧ network.observedAt ≤ now + 5 * second

/-- The sums that `evaluate` compares are instants. -/
def Representable (policy : GuardPolicy) (network : NetworkObservation) (now : ℤ) : Prop :=
  plus network.observedAt policy.maximumObservationAge = .ok (network.observedAt + policy.maximumObservationAge) ∧
    plus now (5 * second) = .ok (now + 5 * second)

/-- Every control that the policy requires was observed as satisfied. -/
structure Satisfied (policy : GuardPolicy) (network : NetworkObservation) : Prop where
  mesh : policy.requireMesh = true → network.meshConnected = some true
  exit : policy.requireApprovedExit = true → network.approvedExitActive = some true
  dns : policy.requireProtectedDns = true → network.dnsProtected = some true
  route : policy.rejectRouteLeak = true → network.routeLeakDetected = some false
  identity : policy.verifyExternalExitIdentity = true → network.externalExitIdentityVerified = some true

/-- The network is one on which the policy asks for no enforcement. -/
def Exempt (policy : GuardPolicy) (network : NetworkObservation) : Prop :=
  network.trust = .trusted ∧ policy.protectAllNetworks = false

theorem control_eq_nil {required wanted : Bool} {observed : Option Bool} {failed unknown : String} :
    control required observed wanted failed unknown = [] ↔ (required = true → observed = some wanted) := by
  unfold control
  cases required <;> cases observed <;> simp

theorem controls_eq_nil {policy : GuardPolicy} {network : NetworkObservation} :
    controls policy network = [] ↔ Satisfied policy network := by
  simp only [controls, List.append_eq_nil_iff, control_eq_nil]
  constructor
  · rintro ⟨⟨⟨⟨hmesh, hexit⟩, hdns⟩, hroute⟩, hidentity⟩
    exact ⟨hmesh, hexit, hdns, hroute, hidentity⟩
  · intro h
    exact ⟨⟨⟨⟨h.mesh, h.exit⟩, h.dns⟩, h.route⟩, h.identity⟩

theorem telemetry_ok {policy : GuardPolicy} {network : NetworkObservation} {now : ℤ} {reasons : List String}
    (h : telemetry policy network now = .ok reasons) : Representable policy network now ∧
      (reasons = [] ↔ InWindow policy network now ∧ network.trust ≠ .unknown) := by
  obtain ⟨freshUntil, hfresh, h⟩ := bind_eq_ok.mp h
  obtain ⟨ahead, hahead, h⟩ := bind_eq_ok.mp h
  obtain rfl := Except.ok.inj h
  obtain rfl := plus_ok hfresh
  obtain rfl := plus_ok hahead
  refine ⟨⟨hfresh, hahead⟩, ?_⟩
  simp only [List.append_eq_nil_iff, ite_eq_right_iff, List.cons_ne_nil, imp_false, not_lt, InWindow]
  rw [Int.sub_right_le_iff_le_add]

theorem telemetry_of_representable {policy : GuardPolicy} {network : NetworkObservation} {now : ℤ}
    (h : Representable policy network now) : ∃ reasons, telemetry policy network now = .ok reasons := by
  refine ⟨_, bind_eq_ok.mpr ⟨_, h.1, bind_eq_ok.mpr ⟨_, h.2, rfl⟩⟩⟩

theorem eraseDups_eq_nil {reasons : List String} : reasons.eraseDups = [] ↔ reasons = [] := by
  cases reasons with
  | nil => rfl
  | cons reason reasons => simp [List.eraseDups_cons]

theorem decideOn_allow {registry : ScopedBypassRegistry} {envelope : SignedPolicyEnvelope}
    {input : GuardEvaluationInput} {reasons : List String} :
    (decideOn registry envelope input reasons).1.egressDecision = .allow ↔
      reasons = [] ∨ Exempt envelope.policy input.network := by
  unfold decideOn
  by_cases hreasons : reasons = []
  · simp [hreasons]
  by_cases hexempt : envelope.policy.protectAllNetworks = true ∨ input.network.trust ≠ .trusted
  · have hnot : ¬ Exempt envelope.policy input.network := by
      rintro ⟨htrust, hall⟩
      simp [htrust, hall] at hexempt
    simp only [hreasons, if_false, not_true_eq_false, hexempt, hnot, or_self, iff_false]
    split <;> simp [blocked]
  · have hyes : Exempt envelope.policy input.network := by
      simpa [Exempt, and_comm] using hexempt
    simp [hreasons, hexempt, hyes]

theorem usable_iff {input : GuardEvaluationInput} :
    input.identity.any (·.isUsable input.now) = true ↔ Usable input := by
  simp [Usable, Option.any_eq_true]

theorem evaluate_allow {registry : ScopedBypassRegistry} {input : GuardEvaluationInput} :
    (∃ verdict registry', evaluate registry input = .ok (verdict, registry') ∧ verdict.egressDecision = .allow) ↔
      Usable input ∧ ∃ envelope, input.policyStatus = .active envelope ∧ ∃ reasons,
        telemetry envelope.policy input.network input.now = .ok reasons ∧
          (reasons ++ controls envelope.policy input.network = [] ∨ Exempt envelope.policy input.network) := by
  constructor
  · rintro ⟨verdict, registry', h, hallow⟩
    unfold evaluate at h
    split at h
    · cases h
      cases hallow
    rename_i husable
    refine ⟨usable_iff.mp (not_not.mp husable), ?_⟩
    split at h
    · cases h
      cases hallow
    · cases h
      cases hallow
    rename_i envelope hstatus
    obtain ⟨reasons, hreasons, h⟩ := bind_eq_ok.mp h
    have hdecide := congrArg (fun pair => pair.1.egressDecision) (Except.ok.inj h)
    refine ⟨envelope, hstatus, reasons, hreasons, ?_⟩
    rw [← eraseDups_eq_nil]
    exact decideOn_allow.mp (hdecide.trans hallow)
  · rintro ⟨husable, envelope, hstatus, reasons, hreasons, hallow⟩
    rw [← eraseDups_eq_nil] at hallow
    obtain ⟨verdict, hverdict⟩ : ∃ pair, decideOn registry envelope input
        (reasons ++ controls envelope.policy input.network).eraseDups = pair := ⟨_, rfl⟩
    refine ⟨verdict.1, verdict.2, ?_, hverdict ▸ decideOn_allow.mpr hallow⟩
    unfold evaluate
    rw [if_neg (not_not.mpr (usable_iff.mpr husable)), hstatus]
    exact bind_eq_ok.mpr ⟨reasons, hreasons, congrArg _ hverdict⟩

/-- An unscoped `ALLOW` is only given on a recent observation of a known network. -/
def FailsClosed (registry : ScopedBypassRegistry) (input : GuardEvaluationInput) : Prop :=
  ∀ verdict registry', evaluate registry input = .ok (verdict, registry') → verdict.egressDecision = .allow →
    Usable input ∧ ∃ envelope, input.policyStatus = .active envelope ∧
      InWindow envelope.policy input.network input.now ∧ input.network.trust ≠ .unknown ∧
        (Exempt envelope.policy input.network ∨ Satisfied envelope.policy input.network)

/-- The guard fails closed, except on a network that was trusted when it was last seen, under a policy that
does not protect all networks: there the age of the observation is only reported. -/
theorem evaluate_failsClosed_iff (registry : ScopedBypassRegistry) (input : GuardEvaluationInput) :
    FailsClosed registry input ↔ ¬ (Usable input ∧ ∃ envelope, input.policyStatus = .active envelope ∧
      Exempt envelope.policy input.network ∧ Representable envelope.policy input.network input.now ∧
        ¬ InWindow envelope.policy input.network input.now) := by
  constructor
  · rintro hcloses ⟨husable, envelope, hstatus, hexempt, hrepresentable, hwindow⟩
    obtain ⟨reasons, hreasons⟩ := telemetry_of_representable hrepresentable
    obtain ⟨verdict, registry', h, hallow⟩ :=
      evaluate_allow.mpr ⟨husable, envelope, hstatus, reasons, hreasons, .inr hexempt⟩
    obtain ⟨-, envelope', hstatus', hwindow', -⟩ := hcloses verdict registry' h hallow
    cases hstatus.symm.trans hstatus'
    exact hwindow hwindow'
  · intro hnot verdict registry' h hallow
    obtain ⟨husable, envelope, hstatus, reasons, hreasons, hcase⟩ := evaluate_allow.mp ⟨verdict, registry', h, hallow⟩
    obtain ⟨hrepresentable, hempty⟩ := telemetry_ok hreasons
    refine ⟨husable, envelope, hstatus, ?_⟩
    rcases hcase with hnone | hexempt
    · obtain ⟨hnil, hcontrols⟩ := List.append_eq_nil_iff.mp hnone
      obtain ⟨hwindow, htrust⟩ := hempty.mp hnil
      exact ⟨hwindow, htrust, .inr (controls_eq_nil.mp hcontrols)⟩
    · have hwindow : InWindow envelope.policy input.network input.now := by
        by_contra hwindow
        exact hnot ⟨husable, envelope, hstatus, hexempt, hrepresentable, hwindow⟩
      refine ⟨hwindow, ?_, .inl hexempt⟩
      rw [hexempt.1]
      decide

def laxPolicy : GuardPolicy :=
  ⟨true, true, true, true, true, false, true, 30 * second, 300 * second, by decide, by decide⟩

/-- A trusted network that was last seen an hour ago, with nothing known of its controls. -/
def hourOld : GuardEvaluationInput where
  now := 3600 * second
  identity := some ⟨none, .active⟩
  policyStatus := .active ⟨1, laxPolicy⟩
  network := ⟨0, .trusted, none, none, none, none, none⟩
  actionScope := none

theorem hourOld_allowed : ¬ FailsClosed .empty hourOld := by
  intro hcloses
  obtain ⟨-, envelope, hstatus, hwindow, -⟩ := hcloses _ _ rfl rfl
  cases hstatus
  exact absurd hwindow.1 (by decide)

end AntiFlock.Guard
