import AntiFlock.Driver.Contract

set_option autoImplicit false

/-!
# Capability probes

What a driver reports about one of its capabilities, the checks on it, and its
digest.
-/
namespace AntiFlock.Driver
open AntiFlock.Go

/-- `CapabilityDomain`; a number without a name is kept as it was received. -/
inductive CapabilityDomain where
  | unspecified
  | mesh
  | network
  | dns
  | flow
  | process
  | firewall
  | identity
  | certificate
  | notification
  | actionGate
  | scrambler
  | unknown (number : ℤ) (unnamed : number < 0 ∨ 11 < number)
deriving DecidableEq

namespace CapabilityDomain

def number : CapabilityDomain → ℤ
  | unspecified => 0
  | mesh => 1
  | network => 2
  | dns => 3
  | flow => 4
  | process => 5
  | firewall => 6
  | identity => 7
  | certificate => 8
  | notification => 9
  | actionGate => 10
  | scrambler => 11
  | unknown n _ => n

def named : CapabilityDomain → Bool
  | unspecified => false
  | unknown _ _ => false
  | _ => true

end CapabilityDomain

inductive CapabilityOperation where
  | unspecified
  | observe
  | enforce
  | verify
  | rollback
  | unknown (number : ℤ) (unnamed : number < 0 ∨ 4 < number)
deriving DecidableEq

namespace CapabilityOperation

def number : CapabilityOperation → ℤ
  | unspecified => 0
  | observe => 1
  | enforce => 2
  | verify => 3
  | rollback => 4
  | unknown n _ => n

def named : CapabilityOperation → Bool
  | unspecified => false
  | unknown _ _ => false
  | _ => true

def text : CapabilityOperation → String
  | unspecified => "CAPABILITY_OPERATION_UNSPECIFIED"
  | observe => "CAPABILITY_OPERATION_OBSERVE"
  | enforce => "CAPABILITY_OPERATION_ENFORCE"
  | verify => "CAPABILITY_OPERATION_VERIFY"
  | rollback => "CAPABILITY_OPERATION_ROLLBACK"
  | unknown n _ => toString n

end CapabilityOperation

inductive CapabilitySupportLevel where
  | unspecified
  | unsupported
  | partially
  | full
  | experimental
  | unknown (number : ℤ) (unnamed : number < 0 ∨ 4 < number)
deriving DecidableEq

namespace CapabilitySupportLevel

def number : CapabilitySupportLevel → ℤ
  | unspecified => 0
  | unsupported => 1
  | partially => 2
  | full => 3
  | experimental => 4
  | unknown n _ => n

def named : CapabilitySupportLevel → Bool
  | unspecified => false
  | unknown _ _ => false
  | _ => true

end CapabilitySupportLevel

/-- A driver's own view of whether it can act now; a byte that is no status is kept. -/
inductive HealthStatus where
  | unknown
  | healthy
  | degraded
  | unavailable
  | other (number : ℕ) (beyond : 3 < number)
deriving DecidableEq

namespace HealthStatus

def number : HealthStatus → ℕ
  | unknown => 0
  | healthy => 1
  | degraded => 2
  | unavailable => 3
  | other n _ => n

def text : HealthStatus → String
  | healthy => "HEALTHY"
  | degraded => "DEGRADED"
  | unavailable => "UNAVAILABLE"
  | _ => "UNKNOWN"

end HealthStatus

structure ProbeResult where
  schemaVersion : ℕ
  key : String
  domain : CapabilityDomain
  operations : List CapabilityOperation
  supportLevel : CapabilitySupportLevel
  driverName : String
  driverVersion : String
  health : HealthStatus
  recoveryReady : Bool
  reasonCodes : List String
  constraints : List String
  probedAt : Time
  expiresAt : Time
deriving DecidableEq

def probeSchemaVersion : ℕ := 1
def maxProbeKeyLength : ℕ := 128
def maxProbeReasonCodes : ℕ := 32
def maxProbeConstraints : ℕ := 32
def maxProbeConstraintLength : ℕ := 256
def maxProbeValidity : Duration := 24 * 3600 * second

def keyByte (b : UInt8) : Bool :=
  between 'a' 'z' b || between '0' '9' b || between '.' '.' b || between '_' '_' b || between '-' '-' b

def validKey (value : String) : Bool :=
  !(value == "" || len value > maxProbeKeyLength || hasPrefix value "." ||
    (bytes ".").isSuffixOf (bytes value) || (bytes value).tails.any fun rest => (bytes "..").isPrefixOf rest) &&
    (bytes value).all keyByte

def probeInvalid (detail : String) : String := "driver probe result is invalid: " ++ detail

namespace ProbeResult

/-- The operation loop, which remembers what it has seen. -/
def validateOperations : List CapabilityOperation → List CapabilityOperation → Option String
  | _, [] => none
  | seen, operation :: rest =>
    if !operation.named then some (probeInvalid "operation is unspecified or unknown")
    else if operation ∈ seen then some (probeInvalid ("operation " ++ operation.text ++ " is duplicated"))
    else validateOperations (operation :: seen) rest

def validConstraint (value : String) : Bool :=
  !(value == "" || len value > maxProbeConstraintLength || !printableASCII value)

def validate (result : ProbeResult) : Option String :=
  if result.schemaVersion ≠ probeSchemaVersion then
    some (probeInvalid s!"schema version {result.schemaVersion} is not 1")
  else if !validKey result.key then some (probeInvalid "key is not a bounded lower-case dotted identifier")
  else if !result.domain.named then some (probeInvalid "domain is unspecified or unknown")
  else if result.operations.length = 0 then some (probeInvalid "at least one operation is required")
  else if let some err := validateOperations [] result.operations then some err
  else if !result.supportLevel.named then some (probeInvalid "support level is unspecified or unknown")
  else if !validIdentifier result.driverName || !validIdentifier result.driverVersion then
    some (probeInvalid "driver name and version must be bounded printable identifiers")
  else if result.health.number > HealthStatus.unavailable.number then
    some (probeInvalid s!"health status {result.health.number} is unknown")
  else if result.recoveryReady && (result.health = .unavailable || result.health = .unknown) then
    some (probeInvalid ("recovery cannot be ready while health is " ++ result.health.text))
  else if result.reasonCodes.length = 0 || result.reasonCodes.length > maxProbeReasonCodes then
    some (probeInvalid "between 1 and 32 reason codes are required")
  else if result.reasonCodes.any (!validReasonCode ·) then
    some (probeInvalid "reason code is not a bounded AF- identifier")
  else if result.constraints.length > maxProbeConstraints then some (probeInvalid "more than 32 constraints")
  else if result.constraints.any (!validConstraint ·) then
    some (probeInvalid "constraint is empty, oversized, or not printable ASCII")
  else if isZero result.probedAt || isZero result.expiresAt then
    some (probeInvalid "probed-at and expires-at are required")
  else if !decide (result.probedAt < result.expiresAt) then some (probeInvalid "expires-at must follow probed-at")
  else if result.expiresAt - result.probedAt > maxProbeValidity then some (probeInvalid "validity exceeds 24h0m0s")
  else none

def digestValue (result : ProbeResult) : String :=
  let hasher := ((newDigest "AntiFlock-DriverProbe-v1").uint result.schemaVersion).str result.key
  let hasher := hasher.int result.domain.number
  let operations := result.operations.insertionSort fun a b => a.number ≤ b.number
  let hasher := operations.foldl (fun hasher operation => hasher.int operation.number) (hasher.uint operations.length)
  let hasher := hasher.int result.supportLevel.number
  let hasher := (hasher.str result.driverName).str result.driverVersion
  let hasher := (hasher.uint result.health.number).uint (if result.recoveryReady then 1 else 0)
  let hasher := hasher.strs (result.reasonCodes.insertionSort fun a b => ¬ b < a)
  let hasher := hasher.strs (result.constraints.insertionSort fun a b => ¬ b < a)
  ((hasher.time result.probedAt).time result.expiresAt).hex

def digest (result : ProbeResult) : Except String String :=
  match result.validate with
  | some err => .error err
  | none => .ok result.digestValue

theorem validateOperations_eq_none {seen operations : List CapabilityOperation}
    (h : validateOperations seen operations = none) :
    operations.Nodup ∧ ∀ operation ∈ operations, operation.named = true ∧ operation ∉ seen := by
  induction operations generalizing seen with
  | nil => exact ⟨List.nodup_nil, nofun⟩
  | cons operation rest ih =>
    rw [validateOperations] at h
    split_ifs at h with hnamed hseen
    obtain ⟨hnodup, hrest⟩ := ih h
    refine ⟨List.nodup_cons.mpr ⟨fun hmem => (hrest operation hmem).2 List.mem_cons_self, hnodup⟩, ?_⟩
    intro other hmem
    rcases List.mem_cons.mp hmem with rfl | hmem
    · exact ⟨by simpa using hnamed, hseen⟩
    · exact ⟨(hrest other hmem).1, fun hseen' => (hrest other hmem).2 (List.mem_cons_of_mem _ hseen')⟩

theorem validate_eq_none {result : ProbeResult} (h : result.validate = none) :
    result.schemaVersion = probeSchemaVersion ∧ validKey result.key = true ∧ result.domain.named = true ∧
      validateOperations [] result.operations = none ∧ result.supportLevel.named = true ∧
      (validIdentifier result.driverName = true ∧ validIdentifier result.driverVersion = true) ∧
      result.health.number ≤ HealthStatus.unavailable.number ∧
      (result.reasonCodes.length ≤ maxProbeReasonCodes ∧ ∀ code ∈ result.reasonCodes, validReasonCode code = true) ∧
      result.constraints.length ≤ maxProbeConstraints ∧
      ∀ constraint ∈ result.constraints, validConstraint constraint = true := by
  unfold validate at h
  cases hoperations : validateOperations [] result.operations with
  | some err =>
    rw [hoperations] at h
    simp only [check_eq_none] at h
    cases h.2.2.2.2
  | none =>
    rw [hoperations] at h
    simp only [check_eq_none] at h
    obtain ⟨hversion, hkey, hdomain, -, hlevel, hnames, hhealth, -, hcount, hcodes, hconstraints, hconstraint, -⟩ := h
    simp only [Bool.or_eq_true, Bool.not_eq_true', not_or, Bool.not_eq_false, decide_eq_true_eq, not_lt, List.any_eq_true,
      not_exists, not_and, not_not] at *
    exact ⟨hversion, hkey, hdomain, trivial, hlevel, hnames, hhealth, ⟨hcount.2, hcodes⟩, hconstraints, hconstraint⟩

end ProbeResult

end AntiFlock.Driver
