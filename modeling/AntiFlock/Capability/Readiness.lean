import AntiFlock.Capability.Manifest

set_option autoImplicit false

/-!
# Readiness

`evaluate` decides for each requirement of a plan whether a manifest makes it
compatible, whether its driver is ready and whether it can be recovered. The
enforcer decides compatibility a second time, on the wire form of the manifest;
the two answers are the same.
-/
namespace AntiFlock

namespace Enforcement

/-- What the enforcer reads of the manifest it was given. -/
def CapabilityManifest.ofWire (manifest : Proto.CapabilityManifest) : CapabilityManifest where
  nodeId := manifest.nodeId
  capabilities := manifest.capabilities.map fun capability =>
    ⟨capability.key, capability.operations, capability.supportLevel⟩

end Enforcement

namespace Capability
open AntiFlock.Go AntiFlock.Driver
open AntiFlock.Enforcement (CapabilityRequirement SupportLevel safePlanToken)

/-! ## Verdicts -/

def reasonOK : String := "AF-CAP-OK"
def reasonMissing : String := "AF-CAP-MISSING"
def reasonSupportLevel : String := "AF-CAP-SUPPORT-LEVEL"
def reasonOperationMissing : String := "AF-CAP-OPERATION-MISSING"
def reasonExpired : String := "AF-CAP-EXPIRED"
def reasonNotYetValid : String := "AF-CAP-NOT-YET-VALID"
def reasonHealthUnknown : String := "AF-CAP-HEALTH-UNKNOWN"
def reasonHealthDegraded : String := "AF-CAP-HEALTH-DEGRADED"
def reasonHealthUnavailable : String := "AF-CAP-HEALTH-UNAVAILABLE"
def reasonRecoveryNotReady : String := "AF-CAP-RECOVERY-NOT-READY"
def reasonRequirementInvalid : String := "AF-CAP-REQUIREMENT-INVALID"
def reasonSchema : String := "AF-CAP-SCHEMA"

def maxClockSkew : Driver.Duration := 5 * 60 * second

structure Verdict where
  key : String
  compatible : Bool
  driverReady : Bool
  recoveryReady : Bool
  health : HealthStatus
  reasonCodes : List String
deriving DecidableEq

def Verdict.failed (key code : String) : Verdict := ⟨key, false, false, false, .unknown, [code]⟩

structure Readiness where
  verdicts : List Verdict
  allCompatible : Bool
  allDriverReady : Bool
  allRecoveryReady : Bool
  expired : Bool
  reasonCodes : List String
deriving DecidableEq

/-- The value has a name in the wire contract, other than that of the unspecified value. -/
def specifiedLevel : SupportLevel → Bool
  | .unspecified | .unlisted _ => false
  | _ => true

def specifiedOperation : Enforcement.CapabilityOperation → Bool
  | .unspecified | .unlisted _ => false
  | _ => true

def validRequirement (requirement : CapabilityRequirement) : Bool :=
  !(requirement.key == "" || requirement.requiredOperations.length == 0) &&
    specifiedLevel requirement.minimumSupportLevel && requirement.requiredOperations.all specifiedOperation

def supportSatisfies (actual : CapabilitySupportLevel) : SupportLevel → Bool
  | .unsupported => actual ≠ .unspecified
  | .partly => actual = .partially || actual = .full
  | .full => actual = .full
  | .experimental => actual = .experimental
  | .unspecified | .unlisted _ => false

def healthReason : HealthStatus → List String
  | .healthy => []
  | .degraded => [reasonHealthDegraded]
  | .unavailable => [reasonHealthUnavailable]
  | .unknown | .other _ _ => [reasonHealthUnknown]

/-- What stands against a requirement, in the order of the checks. -/
def objections (supported operable current : Bool) (health : HealthStatus) (recoveryReady : Bool) : List String :=
  (if supported then [] else [reasonSupportLevel]) ++ (if operable then [] else [reasonOperationMissing]) ++
    (if current then [] else [reasonExpired]) ++ healthReason health ++
    (if recoveryReady then [] else [reasonRecoveryNotReady])

/-- The verdict on a requirement for which the manifest has an entry. -/
def judge (requirement : CapabilityRequirement) (probe : ProbeResult) (now : Time) : Verdict :=
  let supported := supportSatisfies probe.supportLevel requirement.minimumSupportLevel
  let operable := requirement.requiredOperations.all (probe.operations.map operationToWire).contains
  let current := !probe.expired now
  let ready := (supported && operable) && current && probe.health = .healthy
  let codes := objections supported operable current probe.health probe.recoveryReady
  ⟨requirement.key, supported && operable, ready, ready && probe.recoveryReady, probe.health,
    if codes.length = 0 then [reasonOK] else codes⟩

def evaluateOne (manifest : Manifest) (requirement : CapabilityRequirement) (now : Time) : Verdict :=
  if !validRequirement requirement then .failed requirement.key reasonRequirementInvalid
  else
    match manifest.capabilities.find? fun entry => entry.key = requirement.key with
    | none => .failed requirement.key reasonMissing
    | some entry => judge requirement entry.probe now

/-- `all`, which an empty list does not pass. -/
def all (verdicts : List Verdict) (predicate : Verdict → Bool) : Bool := !verdicts.isEmpty && verdicts.all predicate

/-- Why no requirement can be met by the manifest as a whole. -/
def manifestCode (manifest : Manifest) (now : Time) : Option String :=
  if manifest.validate.isSome then some reasonSchema
  else if !decide (now < manifest.expiresAt) then some reasonExpired
  else if now + maxClockSkew < manifest.issuedAt then some reasonNotYetValid
  else none

def evaluate (manifest : Manifest) (requirements : List CapabilityRequirement) (now : Time) : Readiness :=
  if requirements.length = 0 then ⟨[], false, false, false, false, [reasonRequirementInvalid]⟩
  else
    match manifestCode manifest now with
    | some code =>
      ⟨requirements.map fun requirement => .failed requirement.key code, false, false, false, code == reasonExpired, [code]⟩
    | none =>
      let verdicts := requirements.map fun requirement => evaluateOne manifest requirement now
      ⟨verdicts, all verdicts (·.compatible), all verdicts (·.driverReady), all verdicts (·.recoveryReady), false, []⟩

/-! ## Agreement with the enforcer -/

theorem supportSatisfies_toWire (actual : CapabilitySupportLevel) (minimum : SupportLevel) :
    Enforcement.supportSatisfies (supportLevelToWire actual) minimum = supportSatisfies actual minimum := by
  cases actual <;> cases minimum <;> rfl

theorem specifiedOperation_toWire {operation : CapabilityOperation} (h : operation.named = true) :
    specifiedOperation (operationToWire operation) = true := by
  cases operation <;> first | rfl | cases h

def Entry.Meets (entry : Entry) (requirement : CapabilityRequirement) : Prop :=
  entry.key = requirement.key ∧ supportSatisfies entry.probe.supportLevel requirement.minimumSupportLevel = true ∧
    ∀ operation ∈ requirement.requiredOperations, operation ∈ entry.probe.operations.map operationToWire

theorem compatible_iff {manifest : Manifest} (hkeys : (manifest.capabilities.map Entry.key).Nodup)
    (requirement : CapabilityRequirement) (now : Time) : (evaluateOne manifest requirement now).compatible = true ↔
      validRequirement requirement = true ∧ ∃ entry ∈ manifest.capabilities, entry.Meets requirement := by
  unfold evaluateOne
  cases hvalid : validRequirement requirement with
  | false => simp [Verdict.failed]
  | true =>
    cases hfind : manifest.capabilities.find? fun entry => entry.key = requirement.key with
    | none =>
      have hnone := List.find?_eq_none.mp hfind
      simp only [decide_eq_true_eq] at hnone
      simp only [Verdict.failed, Bool.not_true, Bool.false_eq_true, if_false, true_and, false_iff, not_exists, not_and]
      exact fun entry hentry hmeets => hnone entry hentry hmeets.1
    | some entry =>
      have hkey : entry.key = requirement.key := by simpa using List.find?_some hfind
      have hentry := List.mem_of_find?_eq_some hfind
      simp only [judge, Bool.not_true, Bool.false_eq_true, if_false, true_and, Bool.and_eq_true, List.all_eq_true,
        List.contains_iff_mem]
      constructor
      · rintro ⟨hsupport, hoperations⟩
        exact ⟨entry, hentry, hkey, hsupport, hoperations⟩
      · -- the keys differ, so the first entry with the key is the only one
        rintro ⟨other, hother, hmeets⟩
        obtain rfl := List.inj_on_of_nodup_map hkeys hother hentry (hmeets.1.trans hkey.symm)
        exact ⟨hmeets.2.1, hmeets.2.2⟩

theorem mem_sorted {entries : List Entry} {entry : Entry} : entry ∈ Manifest.sorted entries ↔ entry ∈ entries :=
  List.mem_insertionSort _

theorem supports_iff {manifest : Manifest} {wire : Proto.CapabilityManifest}
    (hwire : wire.capabilities = (Manifest.sorted manifest.capabilities).map Entry.toWire)
    (requirement : CapabilityRequirement) :
    (Enforcement.CapabilityManifest.ofWire wire).supports requirement = true ↔
      (∃ entry ∈ manifest.capabilities, entry.Meets requirement) ∧
        ∀ operation ∈ requirement.requiredOperations, operation ≠ .unspecified := by
  simp only [Enforcement.CapabilityManifest.supports, Enforcement.CapabilityManifest.ofWire, hwire, List.any_eq_true,
    List.map_map, List.mem_map, Function.comp_apply, Bool.and_eq_true, decide_eq_true_eq, List.all_eq_true,
    List.contains_iff_mem, ne_eq]
  constructor
  · rintro ⟨_, ⟨entry, hentry, rfl⟩, ⟨hkey, hsupport⟩, hoperations⟩
    exact ⟨⟨entry, mem_sorted.mp hentry, hkey, (supportSatisfies_toWire _ _).symm.trans hsupport,
      fun operation hmem => (hoperations operation hmem).2⟩, fun operation hmem => (hoperations operation hmem).1⟩
  · rintro ⟨⟨entry, hentry, hkey, hsupport, hoperations⟩, hspecified⟩
    exact ⟨_, ⟨entry, mem_sorted.mpr hentry, rfl⟩, ⟨hkey, (supportSatisfies_toWire _ _).trans hsupport⟩,
      fun operation hmem => ⟨hspecified operation hmem, hoperations operation hmem⟩⟩

theorem named_of_entry_validate {entry : Entry} (h : entry.validate = none) {operation : CapabilityOperation}
    (hmem : operation ∈ entry.probe.operations) : operation.named = true := by
  obtain ⟨-, -, -, hoperations, -⟩ := ProbeResult.validate_eq_none (entry_validate_eq_none.mp h).1
  exact ((ProbeResult.validateOperations_eq_none hoperations).2 operation hmem).1

theorem validRequirement_iff {requirement : CapabilityRequirement} {entry : Entry} (hvalid : entry.validate = none)
    (hmeets : entry.Meets requirement) (hkey : safePlanToken requirement.key = true) :
    validRequirement requirement = true ↔
      (safePlanToken requirement.key && !requirement.requiredOperations.isEmpty &&
        decide (requirement.minimumSupportLevel ≠ .unspecified)) = true ∧
        ∀ operation ∈ requirement.requiredOperations, operation ≠ .unspecified := by
  have hnonempty : (requirement.key == "") = false := by
    simp only [safePlanToken, Bool.and_eq_true, decide_eq_true_eq] at hkey
    exact beq_eq_false_iff_ne.mpr hkey.1.1
  have hlevel : specifiedLevel requirement.minimumSupportLevel = true := by
    have hsupport := hmeets.2.1
    cases hminimum : requirement.minimumSupportLevel <;> simp_all [supportSatisfies, specifiedLevel]
  have hoperations : ∀ operation ∈ requirement.requiredOperations, specifiedOperation operation = true := by
    intro operation hmem
    obtain ⟨reported, hreported, rfl⟩ := List.mem_map.mp (hmeets.2.2 operation hmem)
    exact specifiedOperation_toWire (named_of_entry_validate hvalid hreported)
  have hspecified : ∀ operation ∈ requirement.requiredOperations, operation ≠ .unspecified := by
    rintro operation hmem rfl
    cases hoperations _ hmem
  have hminimum : requirement.minimumSupportLevel ≠ .unspecified := by
    intro h
    rw [h] at hlevel
    cases hlevel
  rw [and_iff_left hspecified]
  simp only [validRequirement, hnonempty, hlevel, List.all_eq_true.mpr hoperations, hkey, hminimum, Bool.false_or,
    Bool.and_true, Bool.true_and, ne_eq, not_false_eq_true, decide_true]
  cases requirement.requiredOperations <;> simp

/-- Inside the validity window of a valid manifest `evaluate` finds every requirement compatible exactly
when the enforcer accepts them on the manifest's wire form. -/
theorem evaluate_agrees {manifest : Manifest} (hvalid : manifest.validate = none) {now : Time}
    (hissued : manifest.issuedAt ≤ now + maxClockSkew) (hexpires : now < manifest.expiresAt)
    {requirements : List CapabilityRequirement} (hsome : requirements ≠ [])
    (hkeys : ∀ requirement ∈ requirements, safePlanToken requirement.key = true) :
    ∃ wire, manifest.toProto = .ok wire ∧ ((evaluate manifest requirements now).allCompatible = true ↔
      (Enforcement.CapabilityManifest.ofWire wire).supportsAll requirements = true) := by
  obtain ⟨-, -, hentries, hnodup⟩ := Manifest.validate_eq_none.mp hvalid
  have hcode : manifestCode manifest now = none := by
    simp [manifestCode, hvalid, hexpires, not_lt.mpr hissued]
  have hcount : requirements.length ≠ 0 := fun h => hsome (List.length_eq_zero_iff.mp h)
  refine ⟨_, by rw [Manifest.toProto, hvalid], ?_⟩
  simp only [evaluate, hcount, if_false, hcode, all, List.isEmpty_map, List.isEmpty_eq_false_iff.mpr hsome, Bool.not_false,
    Bool.true_and, List.all_map, List.all_eq_true, Function.comp_apply, Enforcement.CapabilityManifest.supportsAll,
    Enforcement.validCapabilityRequirements, Bool.and_eq_true (List.all _ _), ← forall_and]
  refine forall₂_congr fun requirement hmem => ?_
  rw [compatible_iff hnodup, supports_iff rfl]
  constructor
  · rintro ⟨hrequirement, entry, hentry, hmeets⟩
    have h := (validRequirement_iff (hentries entry hentry).1 hmeets (hkeys requirement hmem)).mp hrequirement
    exact ⟨h.1, ⟨entry, hentry, hmeets⟩, h.2⟩
  · rintro ⟨hrequirement, ⟨entry, hentry, hmeets⟩, hspecified⟩
    exact ⟨(validRequirement_iff (hentries entry hentry).1 hmeets (hkeys requirement hmem)).mpr
      ⟨hrequirement, hspecified⟩, entry, hentry, hmeets⟩

def firewallRequirement : CapabilityRequirement := ⟨"firewall.egress.enforce", [.enforce, .rollback], .full⟩

theorem evaluate_agrees_firewall :
    ∃ wire, sampleManifest.toProto = .ok wire ∧ ((evaluate sampleManifest [firewallRequirement] 1500).allCompatible = true ↔
      (Enforcement.CapabilityManifest.ofWire wire).supportsAll [firewallRequirement] = true) :=
  evaluate_agrees sampleManifest_valid (by decide) (by decide) (by decide) (by decide)

end Capability
end AntiFlock
